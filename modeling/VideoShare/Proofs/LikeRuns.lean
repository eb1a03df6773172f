import VideoShare.Proofs.LikeEdges

/-!
# Runs of toggles and dislikes

Two calls change the likes, the toggle and the dislike. `LikeCall.onTables` says what one of them does to the tables,
`LikeCall.onEdges` what it does to a set of edges, which is all that a user of likes need know. A call does the former
(`LikeCall.perform_eq`), and the former is the latter seen through the edges (`LikeCall.onTables_edges`); the same follows for runs
of any length, with any clock and any number of stale look-ups in each call.

An id of a video that is too wide for the database is the one thing that is not said of edges: it is not looked up, and so not said
to be unknown.
-/

namespace VideoShare

/-- The two calls that change likes. -/
inductive LikeAction where
  | toggle
  | dislike

/-- A call on a user's like of a video, and the world that surrounds the tables when it is made: its clock, and the number of look-ups
of likes that are stale in the call. -/
structure LikeCall where
  action : LikeAction
  user : String
  video : Int
  around : World

namespace LikeCall

/-- The edge that a call is about. -/
def edge (c : LikeCall) : Edge := (c.user, c.video)

/-- The world in which a call is made, given the tables. -/
def world (c : LikeCall) (db : Database) : World := { c.around with db := db }

/-- Makes a call. A toggle answers whether the video is liked now. -/
def perform (c : LikeCall) : Service (Option Bool) :=
  match c.action with
  | .toggle => do
    let (_, liked) ← Service.likeVideo c.user c.video
    pure (some liked)
  | .dislike => do
    Service.dislikeVideo c.user c.video
    pure none

/-- What a call answers, and the edges it leaves, when neither its user nor its video is missing. -/
def onEdges (c : LikeCall) (edges : Finset Edge) : Except Failure (Option Bool) × Finset Edge :=
  match c.action with
  | .toggle =>
    if c.edge ∉ edges then (.ok (some true), insert c.edge edges)
    else if c.around.staleLikes ≤ 1 then (.ok (some false), edges.erase c.edge)
    else (.error .duplicateKey, edges)
  | .dislike => (.ok none, if c.around.staleLikes = 0 then edges.erase c.edge else edges)

/-- What a call answers, and the edges it leaves. The tables say who is registered and which videos there are. -/
def specified (db : Database) (c : LikeCall) (edges : Finset Edge) : Except Failure (Option Bool) × Finset Edge :=
  match db.missing c.user c.video with
  | some e => (.error e, edges)
  | none => c.onEdges edges

/-- What a call answers, and the tables it leaves. -/
def onTables (c : LikeCall) (db : Database) : Except Failure (Option Bool) × Database :=
  match db.missing c.user c.video, c.action with
  | some e, _ => (.error e, db)
  | none, .toggle =>
    if c.edge ∉ db.edges then (.ok (some true), { db with likes := db.likes ++ [⟨c.user, c.video, c.around.now⟩] })
    else if c.around.staleLikes ≤ 1 then (.ok (some false), db.removeLike c.user c.video)
    else (.error .duplicateKey, db)
  | none, .dislike => (.ok none, if c.around.staleLikes = 0 then db.removeLike c.user c.video else db)

theorem perform_toggle (user : String) (video : Int) (around w : World) :
    perform ⟨.toggle, user, video, around⟩ w =
      ((Service.likeVideo user video w).1.map fun a => some a.2, (Service.likeVideo user video w).2) := by
  unfold perform
  rcases h : Service.likeVideo user video w with ⟨e | a, w'⟩
  · exact Service.bind_of_error h
  · exact Service.bind_of_ok h

theorem perform_dislike (user : String) (video : Int) (around w : World) :
    perform ⟨.dislike, user, video, around⟩ w =
      ((Service.dislikeVideo user video w).1.map fun _ => none, (Service.dislikeVideo user video w).2) := by
  unfold perform
  rcases h : Service.dislikeVideo user video w with ⟨e | a, w'⟩
  · exact Service.bind_of_error h
  · exact Service.bind_of_ok h

/-- A call does what is said of it, to the tables. -/
theorem perform_eq (c : LikeCall) (db : Database) :
    ((c.perform (c.world db)).1, (c.perform (c.world db)).2.db) = c.onTables db := by
  obtain ⟨action, user, video, around⟩ := c
  cases hmissing : db.missing user video with
  | some e =>
    cases action with
    | toggle =>
      have hcall := Service.likeVideo_of_missing (w := { around with db := db }) hmissing
      simp only [world, perform_toggle, hcall, Except.map, onTables, hmissing]
    | dislike =>
      have hcall := Service.dislikeVideo_of_missing (w := { around with db := db }) hmissing
      simp only [world, perform_dislike, hcall, Except.map, onTables, hmissing]
  | none =>
    cases action with
    | toggle =>
      by_cases hthere : (user, video) ∈ db.edges
      · by_cases hstale : around.staleLikes ≤ 1
        · obtain ⟨v, hcall⟩ := Service.likeVideo_of_seen (w := { around with db := db }) hmissing hthere hstale
          simp only [world, perform_toggle, hcall, Except.map, onTables, hmissing, edge, hthere, hstale, not_true_eq_false,
            if_false, if_true]
        · have htwo : 2 ≤ around.staleLikes := by omega
          have hcall := Service.likeVideo_of_unseen (w := { around with db := db }) hmissing hthere htwo
          simp only [world, perform_toggle, hcall, Except.map, onTables, hmissing, edge, hthere, hstale, not_true_eq_false,
            if_false]
      · obtain ⟨v, hcall⟩ := Service.likeVideo_of_absent (w := { around with db := db }) hmissing hthere
        simp only [world, perform_toggle, hcall, Except.map, onTables, hmissing, edge, hthere, not_false_eq_true, if_true]
    | dislike =>
      by_cases hfresh : around.staleLikes = 0
      · have hcall := Service.dislikeVideo_of_fresh (w := { around with db := db }) hmissing hfresh
        simp only [world, perform_dislike, hcall, Except.map, onTables, hmissing]
        rw [if_pos hfresh]
      · have hcall := Service.dislikeVideo_of_stale (w := { around with db := db }) hmissing hfresh
        simp only [world, perform_dislike, hcall, Except.map, onTables, hmissing]
        rw [if_neg hfresh]

/-! ### What a call leaves -/

/-- A call fails and changes nothing, adds the edge that is not there, takes it out, or does nothing. -/
theorem onTables_cases (c : LikeCall) (db : Database) :
    (∃ e, c.onTables db = (.error e, db)) ∨
      (c.edge ∉ db.edges ∧ c.onTables db =
        (.ok (some true), { db with likes := db.likes ++ [⟨c.user, c.video, c.around.now⟩] })) ∨
      (∃ answer, c.onTables db = (.ok answer, db.removeLike c.user c.video)) ∨
      ∃ answer, c.onTables db = (.ok answer, db) := by
  unfold onTables
  split
  · exact Or.inl ⟨_, rfl⟩
  · split
    · rename_i habsent
      exact Or.inr (Or.inl ⟨habsent, rfl⟩)
    · split
      · exact Or.inr (Or.inr (Or.inl ⟨_, rfl⟩))
      · exact Or.inl ⟨_, rfl⟩
  · split
    · exact Or.inr (Or.inr (Or.inl ⟨_, rfl⟩))
    · exact Or.inr (Or.inr (Or.inr ⟨_, rfl⟩))

/-- What a call does to the tables is, seen through the edges, what is specified. -/
theorem onTables_edges (c : LikeCall) (db : Database) :
    ((c.onTables db).1, (c.onTables db).2.edges) = c.specified db db.edges := by
  unfold onTables specified
  cases db.missing c.user c.video with
  | some e => rfl
  | none =>
    unfold onEdges
    cases c.action with
    | toggle =>
      by_cases hthere : c.edge ∈ db.edges
      · by_cases hstale : c.around.staleLikes ≤ 1
        · simp only [hthere, hstale, not_true_eq_false, if_false, if_true, Database.edges_removeLike]
          rfl
        · simp only [hthere, hstale, not_true_eq_false, if_false]
      · simp only [hthere, not_false_eq_true, if_true, Database.edges_append]
        rfl
    | dislike =>
      by_cases hfresh : c.around.staleLikes = 0
      · simp only [hfresh, if_true, Database.edges_removeLike]
        rfl
      · simp only [hfresh, if_false]

/-- A call that fails leaves the tables as they were. -/
theorem onTables_of_error {c : LikeCall} {db : Database} {e : Failure} (h : (c.onTables db).1 = .error e) :
    (c.onTables db).2 = db := by
  rcases c.onTables_cases db with ⟨e', heq⟩ | ⟨-, heq⟩ | ⟨answer, heq⟩ | ⟨answer, heq⟩
  · rw [heq]
  · simp [heq] at h
  · simp [heq] at h
  · simp [heq] at h

/-- A call leaves every like of another edge, its time included, and brings none. -/
theorem mem_onTables_iff {c : LikeCall} {l : Like} (h : l.edge ≠ c.edge) (db : Database) :
    l ∈ (c.onTables db).2.likes ↔ l ∈ db.likes := by
  rcases c.onTables_cases db with ⟨e, heq⟩ | ⟨-, heq⟩ | ⟨answer, heq⟩ | ⟨answer, heq⟩
  · rw [heq]
  · rw [heq, List.mem_append, List.mem_singleton]
    refine ⟨fun hl => hl.resolve_right ?_, Or.inl⟩
    rintro rfl
    exact h rfl
  · rw [heq, Database.mem_removeLike]
    exact and_iff_left h
  · rw [heq]

/-- A call changes no other table. -/
theorem onTables_eq (c : LikeCall) (db : Database) : (c.onTables db).2 = { db with likes := (c.onTables db).2.likes } := by
  rcases c.onTables_cases db with ⟨e, heq⟩ | ⟨-, heq⟩ | ⟨answer, heq⟩ | ⟨answer, heq⟩ <;> rw [heq]
  rfl

theorem keyed_onTables (c : LikeCall) {db : Database} (hdb : db.Keyed) : (c.onTables db).2.Keyed := by
  rcases c.onTables_cases db with ⟨e, heq⟩ | ⟨habsent, heq⟩ | ⟨answer, heq⟩ | ⟨answer, heq⟩
  · rwa [heq]
  · rw [heq]
    exact hdb.addLike (Database.like?_eq_none_iff.mpr habsent)
  · rw [heq]
    exact hdb.removeLike _ _
  · rwa [heq]

/-! ### Runs -/

/-- Makes calls one after another: what they answer, and the tables they leave. -/
def run : List LikeCall → Database → List (Except Failure (Option Bool)) × Database
  | [], db => ([], db)
  | c :: calls, db =>
    let (answer, w) := c.perform (c.world db)
    let (answers, after) := run calls w.db
    (answer :: answers, after)

/-- The same on edges alone. The tables say who is registered and which videos there are, at all times. -/
def runOnEdges (db : Database) : List LikeCall → Finset Edge → List (Except Failure (Option Bool)) × Finset Edge
  | [], edges => ([], edges)
  | c :: calls, edges =>
    let (answer, next) := c.specified db edges
    let (answers, after) := runOnEdges db calls next
    (answer :: answers, after)

theorem run_cons (c : LikeCall) (calls : List LikeCall) (db : Database) :
    run (c :: calls) db =
      ((c.onTables db).1 :: (run calls (c.onTables db).2).1, (run calls (c.onTables db).2).2) := by
  rw [← perform_eq]
  rfl

theorem runOnEdges_cons (db : Database) (c : LikeCall) (calls : List LikeCall) (edges : Finset Edge) :
    runOnEdges db (c :: calls) edges =
      ((c.specified db edges).1 :: (runOnEdges db calls (c.specified db edges).2).1,
        (runOnEdges db calls (c.specified db edges).2).2) := rfl

theorem keyed_run (calls : List LikeCall) : ∀ {db : Database}, db.Keyed → (run calls db).2.Keyed := by
  induction calls with
  | nil => exact fun h => h
  | cons c calls ih =>
    intro db h
    rw [run_cons]
    exact ih (c.keyed_onTables h)

/-- A run changes no table but that of the likes. -/
theorem run_eq (calls : List LikeCall) : ∀ db : Database, (run calls db).2 = { db with likes := (run calls db).2.likes } := by
  induction calls with
  | nil => exact fun _ => rfl
  | cons c calls ih =>
    intro db
    rw [run_cons, ih, onTables_eq]

/-- A run is, seen through the edges, the run on edges. Users and videos are at all times those of the tables it began with. -/
theorem run_edges (db : Database) (calls : List LikeCall) :
    ∀ likes : List Like,
      ((run calls { db with likes := likes }).1, (run calls { db with likes := likes }).2.edges) =
        runOnEdges db calls { db with likes := likes }.edges := by
  induction calls with
  | nil => exact fun _ => rfl
  | cons c calls ih =>
    intro likes
    have hstep : ((c.onTables { db with likes := likes }).1, (c.onTables { db with likes := likes }).2.edges) =
        c.specified db { db with likes := likes }.edges := c.onTables_edges { db with likes := likes }
    have hrest := ih (c.onTables { db with likes := likes }).2.likes
    have hlikes : (c.onTables { db with likes := likes }).2 =
        { db with likes := (c.onTables { db with likes := likes }).2.likes } := c.onTables_eq { db with likes := likes }
    rw [← hlikes] at hrest
    rw [run_cons, runOnEdges_cons, ← hstep, ← hrest]

/-! ### What holds of every call and after every run -/

/-- What a call leaves alone. If it fails it changes nothing; and it fails where its user is not registered, for that reason, and where
there is no such video, for that reason or because the video's id is too wide for the database. Every like of another edge stays
with its time, and no other one is new. -/
structure Contained (c : LikeCall) (db : Database) : Prop where
  failed : ∀ e, (c.perform (c.world db)).1 = .error e → (c.perform (c.world db)).2.db = db
  missing : ∀ e, db.missing c.user c.video = some e →
    (c.perform (c.world db)).1 = .error e ∧
      ((∃ r, e = .refused r ∧ r.kind = .notFound) ∨
        db.HasUser c.user ∧ fitsColumn c.video = false ∧ e = .integerTooWide)
  others : ∀ l : Like, l.edge ≠ c.edge → (l ∈ (c.perform (c.world db)).2.db.likes ↔ l ∈ db.likes)

theorem contained (c : LikeCall) (db : Database) : c.Contained db := by
  have hanswer : (c.perform (c.world db)).1 = (c.onTables db).1 := congrArg Prod.fst (c.perform_eq db)
  have hdb : (c.perform (c.world db)).2.db = (c.onTables db).2 := congrArg Prod.snd (c.perform_eq db)
  constructor
  case failed =>
    intro e he
    rw [hdb]
    exact onTables_of_error (hanswer ▸ he)
  case missing =>
    intro e he
    rw [hanswer]
    exact ⟨by simp only [onTables, he], Database.missing_eq_some he⟩
  case others =>
    intro l hl
    rw [hdb]
    exact mem_onTables_iff hl db

end LikeCall

/-- The likes in the tables are read as a set of edges: no edge has two rows, with a fresh look-up a user is said to like a video
exactly when the edge is there, and the videos that a user likes are listed once each. -/
structure Database.ReadsEdges (db : Database) : Prop where
  oneRow : (db.likes.map Like.edge).Nodup
  hasLiked : ∀ (user : String) (video : Int) (w : World), w.db = db → w.staleLikes = 0 → db.missing user video = none →
    Service.hasLiked user video w = (.ok (decide ((user, video) ∈ db.edges)), w)
  likedVideos : ∀ (user : String) (w : World), w.db = db → db.HasUser user →
    ∃ videos, Service.likedVideos user w = (.ok videos, w) ∧ (videos.map (·.id)).Nodup ∧
      ∀ v, v ∈ videos ↔ v ∈ db.videos ∧ (user, v.id) ∈ db.edges

theorem Database.Keyed.readsEdges {db : Database} (h : db.Keyed) : db.ReadsEdges where
  oneRow := h.likes
  hasLiked user video w hw hfresh hmissing := by
    subst hw
    exact Service.hasLiked_of_fresh hmissing hfresh
  likedVideos user w hw huser := by
    subst hw
    exact Service.likedVideos_of_hasUser h huser

/-- The table of likes refines a finite set of edges under any run of toggles and dislikes, with any number of stale look-ups in each.
The answers and the edges left are those of the run on edges alone, no other table changes, every call leaves alone what it is not
about, and what is read of likes is read off the edges. -/
theorem likes_refine_edges (db : Database) (hdb : db.Keyed) (calls : List LikeCall) :
    ((LikeCall.run calls db).1, (LikeCall.run calls db).2.edges) = LikeCall.runOnEdges db calls db.edges ∧
      (LikeCall.run calls db).2 = { db with likes := (LikeCall.run calls db).2.likes } ∧
      (LikeCall.run calls db).2.ReadsEdges ∧
      ∀ c : LikeCall, c.Contained (LikeCall.run calls db).2 := by
  refine ⟨LikeCall.run_edges db calls db.likes, LikeCall.run_eq calls db, ?_, fun c => c.contained _⟩
  exact (LikeCall.keyed_run calls hdb).readsEdges

/-! ### Toggles that miss the like -/

namespace StaleToggles

/-- Bob likes the first of Ann's two videos. -/
def tables : Database where
  users := [⟨"ann", "Ann", none, none, "ROLE_USER", 0⟩, ⟨"bob", "Bob", none, none, "ROLE_USER", 0⟩]
  videos := [⟨1, "ann", "Surf", none, "Sport", "en", 60, 0, 0⟩, ⟨2, "ann", "Golf", none, "Sport", "en", 60, 0, 0⟩]
  likes := [⟨"bob", 1, 5⟩]

/-- Ann likes the first video with three stale look-ups, then toggles with two of them, with one, and with none. A dislike of hers with
a stale look-up is followed by one with none, by Bob's like of the other video, and by his like of a third one. -/
def calls : List LikeCall :=
  [⟨.toggle, "ann", 1, { now := 10, staleLikes := 3 }⟩, ⟨.toggle, "ann", 1, { now := 11, staleLikes := 2 }⟩,
    ⟨.toggle, "ann", 1, { now := 12, staleLikes := 1 }⟩, ⟨.toggle, "ann", 1, { now := 13 }⟩,
    ⟨.dislike, "ann", 1, { now := 14, staleLikes := 1 }⟩, ⟨.dislike, "ann", 1, { now := 15 }⟩,
    ⟨.toggle, "bob", 2, { now := 16 }⟩, ⟨.toggle, "bob", 3, { now := 17 }⟩]

def answers : List (Except Failure (Option Bool)) :=
  [.ok (some true), .error .duplicateKey, .ok (some false), .ok (some true), .ok none, .ok none, .ok (some true),
    .error (.refused .noVideo)]

/-- What the calls answer on edges is what they answer on the tables, and Bob's first like has kept its time. -/
theorem answered_as_on_edges :
    (LikeCall.run calls tables).1 = answers ∧ (LikeCall.run calls tables).2.edges = {("bob", 1), ("bob", 2)} ∧
      (LikeCall.run calls tables).2.likes = [⟨"bob", 1, 5⟩, ⟨"bob", 2, 16⟩] ∧
      (LikeCall.run calls tables).2.ReadsEdges := by
  have hkeyed : tables.Keyed := by constructor <;> decide
  have hedges : LikeCall.runOnEdges tables calls tables.edges = (answers, {("bob", 1), ("bob", 2)}) := by decide
  obtain ⟨hrun, -, hreads, -⟩ := likes_refine_edges tables hkeyed calls
  rw [hedges] at hrun
  obtain ⟨hanswers, hleft⟩ := Prod.mk.inj hrun
  exact ⟨hanswers, hleft, by decide, hreads⟩

end StaleToggles

/-! ### An id that is too wide -/

namespace WideId

/-- Ann is registered, and there are no videos. -/
def world : World := { db := { users := [⟨"ann", "Ann", none, none, "ROLE_USER", 0⟩] } }

/-- It is not so that every toggle for an unknown user or video says what it did not find: the id may be too wide to be looked up. -/
theorem not_every_unknown_refused :
    ¬∀ (user : String) (video : Int) (w : World), ¬w.db.HasUser user ∨ ¬w.db.HasVideo video →
      ∃ r : Refusal, r.kind = .notFound ∧ (Service.likeVideo user video w).1 = .error (.refused r) := by
  intro h
  have hunknown : ¬world.db.HasVideo 9223372036854775808 := by decide
  have hwide : (Service.likeVideo "ann" 9223372036854775808 world).1 = .error .integerTooWide := by decide
  obtain ⟨r, -, hrefused⟩ := h "ann" 9223372036854775808 world (Or.inr hunknown)
  rw [hwide] at hrefused
  simp at hrefused

end WideId

end VideoShare
