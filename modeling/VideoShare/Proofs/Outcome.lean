import VideoShare.World

/-!
# How calls end

A call that is put together from others answers when each of them does, in the worlds they leave. Read backwards: where a call
answered, each of its parts answered, and what each part says of its world can be taken in turn. A transaction that fails leaves
the tables as they were, whatever it did before it failed.

`Keeps f` says that a call, however it ends, leaves what `f` reads of a world as it was. Calls that keep something are put
together from calls that keep it.
-/

namespace VideoShare

/-- Integers pass the check of the columns when each of them fits into one. -/
theorem checkColumns_eq_ok {ns : List Int} : checkColumns ns = .ok () ↔ ∀ n ∈ ns, fitsColumn n = true := by
  rw [checkColumns, ← List.all_eq_true]
  split <;> simp_all

namespace Service

variable {α β γ : Type}

/-! ## Values and sequences -/

@[simp] theorem pure_apply (a : α) (w : World) : (pure a : Service α) w = (.ok a, w) := rfl

/-- A sequence goes on from where its first call answered. -/
theorem bind_of_ok {x : Service α} {f : α → Service β} {w w' : World} {a : α} (h : x w = (.ok a, w')) :
    (x >>= f) w = f a w' := by
  change Service.bind x f w = f a w'
  simp only [Service.bind, h]

/-- A sequence ends where its first call fails. -/
theorem bind_of_error {x : Service α} {f : α → Service β} {w w' : World} {e : Failure} (h : x w = (.error e, w')) :
    (x >>= f) w = (.error e, w') := by
  change Service.bind x f w = (.error e, w')
  simp only [Service.bind, h]

/-- A sequence that answered: its first call answered, and its second call answered from there. -/
theorem bind_eq_ok {x : Service α} {f : α → Service β} {w w' : World} {b : β} :
    (x >>= f) w = (.ok b, w') ↔ ∃ a w₁, x w = (.ok a, w₁) ∧ f a w₁ = (.ok b, w') := by
  constructor
  · intro h
    rcases hx : x w with ⟨e | a, w₁⟩
    · rw [bind_of_error hx] at h
      simp at h
    · rw [bind_of_ok hx] at h
      exact ⟨a, w₁, rfl, h⟩
  · rintro ⟨a, w₁, hx, hf⟩
    rw [bind_of_ok hx, hf]

/-- A sequence that failed: its first call failed, or its second call failed where the first one answered. -/
theorem bind_eq_error {x : Service α} {f : α → Service β} {w w' : World} {e : Failure} :
    (x >>= f) w = (.error e, w') ↔
      x w = (.error e, w') ∨ ∃ a w₁, x w = (.ok a, w₁) ∧ f a w₁ = (.error e, w') := by
  constructor
  · intro h
    rcases hx : x w with ⟨e' | a, w₁⟩
    · rw [bind_of_error hx] at h
      simp only [Prod.mk.injEq, Except.error.injEq] at h
      obtain ⟨rfl, rfl⟩ := h
      exact Or.inl rfl
    · rw [bind_of_ok hx] at h
      exact Or.inr ⟨a, w₁, rfl, h⟩
  · rintro (hx | ⟨a, w₁, hx, hf⟩)
    · exact bind_of_error hx
    · rw [bind_of_ok hx, hf]

/-- Of three calls in sequence the first two can be taken as one, or the last two. -/
theorem bind_assoc (x : Service α) (f : α → Service β) (g : β → Service γ) :
    (x >>= f) >>= g = x >>= fun a => f a >>= g := by
  funext w
  rcases hx : x w with ⟨e | a, w₁⟩
  · rw [bind_of_error hx, bind_of_error (bind_of_error hx)]
  · rw [bind_of_ok hx]
    change Service.bind (x >>= f) g w = Service.bind (f a) g w₁
    simp only [Service.bind, bind_of_ok hx]

@[simp] theorem modifyDatabase_apply (f : Database → Database) (w : World) :
    modifyDatabase f w = (.ok (), { w with db := f w.db }) := rfl

@[simp] theorem lift_apply (x : Except Failure α) (w : World) : lift x w = (x, w) := rfl

@[simp] theorem refuse_apply (r : Refusal) (w : World) : (refuse r : Service α) w = (.error (.refused r), w) := rfl

/-- A call that reads the tables goes on with them. -/
@[simp] theorem database_bind (f : Database → Service β) (w : World) : (database >>= f) w = f w.db w := rfl

/-- A call that reads the clock goes on with its time. -/
@[simp] theorem now_bind (f : Instant → Service β) (w : World) : (now >>= f) w = f w.now w := rfl

/-- A call that changes the tables goes on in the changed ones. -/
@[simp] theorem modifyDatabase_bind (g : Database → Database) (f : Unit → Service β) (w : World) :
    (modifyDatabase g >>= f) w = f () { w with db := g w.db } := rfl

/-! ## Single calls that answered -/

/-- A call that answers a value answers that value and changes nothing. -/
theorem pure_eq_ok {a b : α} {w w' : World} : (pure a : Service α) w = (.ok b, w') ↔ b = a ∧ w' = w := by
  simp only [pure_apply, Prod.mk.injEq, Except.ok.injEq]
  exact ⟨fun ⟨h, h'⟩ => ⟨h.symm, h'.symm⟩, fun ⟨h, h'⟩ => ⟨h.symm, h'.symm⟩⟩

/-- A change of the tables answered: the tables are the changed ones. -/
theorem modifyDatabase_eq_ok {f : Database → Database} {w w' : World} :
    modifyDatabase f w = (.ok (), w') ↔ w' = { w with db := f w.db } := by
  simp only [modifyDatabase_apply, Prod.mk.injEq, true_and]
  exact eq_comm

/-- A computation that was lifted answered its value and changed nothing. -/
theorem lift_eq_ok {x : Except Failure α} {w w' : World} {a : α} : lift x w = (.ok a, w') ↔ x = .ok a ∧ w' = w := by
  simp only [lift_apply, Prod.mk.injEq]
  exact ⟨fun ⟨h, h'⟩ => ⟨h, h'.symm⟩, fun ⟨h, h'⟩ => ⟨h, h'.symm⟩⟩

/-- A change of the tables that may fail answered: the tables are the new ones. -/
theorem updateDatabase_eq_ok {f : Database → Except Failure Database} {w w' : World} :
    updateDatabase f w = (.ok (), w') ↔ ∃ db, f w.db = .ok db ∧ w' = { w with db := db } := by
  unfold updateDatabase
  cases hf : f w.db <;> simp [eq_comm]

/-- The user who was looked up is in the tables. -/
theorem user_eq_ok {id : String} {r : Refusal} {w w' : World} {u : User} :
    user id r w = (.ok u, w') ↔ w.db.user? id = some u ∧ w' = w := by
  unfold user
  cases hu : w.db.user? id <;> simp [eq_comm]

/-- The video that was looked up is in the tables, and its id fits into a column. -/
theorem video_eq_ok {id : Int} {w w' : World} {v : Video} :
    video id w = (.ok v, w') ↔ fitsColumn id = true ∧ w.db.video? id = some v ∧ w' = w := by
  unfold video
  by_cases hid : fitsColumn id = true
  · cases hv : w.db.video? id <;> simp [hid, eq_comm]
  · simp [hid]

/-- A call that begins with a look-up of a user goes on with the user, in the same world. -/
theorem user_bind_eq_ok {id : String} {r : Refusal} {f : User → Service β} {w w' : World} {b : β} :
    (user id r >>= f) w = (.ok b, w') ↔ ∃ u, w.db.user? id = some u ∧ f u w = (.ok b, w') := by
  rw [bind_eq_ok]
  constructor
  · rintro ⟨u, w₁, huser, hf⟩
    obtain ⟨hu, rfl⟩ := user_eq_ok.mp huser
    exact ⟨u, hu, hf⟩
  · rintro ⟨u, hu, hf⟩
    exact ⟨u, w, user_eq_ok.mpr ⟨hu, rfl⟩, hf⟩

/-- A call that begins with a look-up of a video goes on with the video, in the same world. -/
theorem video_bind_eq_ok {id : Int} {f : Video → Service β} {w w' : World} {b : β} :
    (video id >>= f) w = (.ok b, w') ↔
      ∃ v, fitsColumn id = true ∧ w.db.video? id = some v ∧ f v w = (.ok b, w') := by
  rw [bind_eq_ok]
  constructor
  · rintro ⟨v, w₁, hvideo, hf⟩
    obtain ⟨hfit, hv, rfl⟩ := video_eq_ok.mp hvideo
    exact ⟨v, hfit, hv, hf⟩
  · rintro ⟨v, hfit, hv, hf⟩
    exact ⟨v, w, video_eq_ok.mpr ⟨hfit, hv, rfl⟩, hf⟩

/-- A call that begins with a computation goes on with its value, in the same world. -/
theorem lift_bind_eq_ok {x : Except Failure α} {f : α → Service β} {w w' : World} {b : β} :
    (lift x >>= f) w = (.ok b, w') ↔ ∃ a, x = .ok a ∧ f a w = (.ok b, w') := by
  rw [bind_eq_ok]
  constructor
  · rintro ⟨a, w₁, hlift, hf⟩
    obtain ⟨ha, rfl⟩ := lift_eq_ok.mp hlift
    exact ⟨a, ha, hf⟩
  · rintro ⟨a, ha, hf⟩
    exact ⟨a, w, lift_eq_ok.mpr ⟨ha, rfl⟩, hf⟩

/-- A look-up of a like answers the like in the tables, or nothing while a stale look-up is left. It changes no table. -/
theorem like?_eq_ok {user : String} {video : Int} {w w' : World} {l : Option Like}
    (h : like? user video w = (.ok l, w')) :
    (l = w.db.like? user video ∨ l = none) ∧ w' = { w with staleLikes := w'.staleLikes } := by
  unfold like? at h
  split at h
  · simp only [Prod.mk.injEq, Except.ok.injEq] at h
    obtain ⟨rfl, rfl⟩ := h
    exact ⟨Or.inl rfl, rfl⟩
  · simp only [Prod.mk.injEq, Except.ok.injEq] at h
    obtain ⟨rfl, rfl⟩ := h
    exact ⟨Or.inr rfl, rfl⟩

/-! ## Transactions and clean-ups -/

/-- A transaction answered: so did the call in it. -/
theorem transaction_eq_ok {x : Service α} {w w' : World} {a : α} :
    transaction x w = (.ok a, w') ↔ x w = (.ok a, w') := by
  unfold transaction
  rcases x w with ⟨e | b, w₁⟩ <;> simp

/-- A transaction failed: so did the call in it, and the tables are as before. -/
theorem transaction_eq_error {x : Service α} {w w' : World} {e : Failure} :
    transaction x w = (.error e, w') ↔ ∃ w₁, x w = (.error e, w₁) ∧ w' = { w₁ with db := w.db } := by
  unfold transaction
  rcases x w with ⟨e' | b, w₁⟩
  · constructor
    · intro h
      simp only [Prod.mk.injEq, Except.error.injEq] at h
      obtain ⟨rfl, rfl⟩ := h
      exact ⟨w₁, rfl, rfl⟩
    · rintro ⟨w₂, h, rfl⟩
      simp only [Prod.mk.injEq, Except.error.injEq] at h
      obtain ⟨rfl, rfl⟩ := h
      rfl
  · simp

/-- A transaction that fails leaves the tables as they were. -/
theorem transaction_error_db {x : Service α} {w w' : World} {e : Failure} (h : transaction x w = (.error e, w')) :
    w'.db = w.db := by
  obtain ⟨w₁, -, rfl⟩ := transaction_eq_error.mp h
  rfl

/-- A call with a clean-up answered: there was nothing to clean up. -/
theorem cleaningUp_eq_ok {x : Service α} {c : Service Unit} {w w' : World} {a : α} :
    cleaningUp x c w = (.ok a, w') ↔ x w = (.ok a, w') := by
  unfold cleaningUp
  rcases x w with ⟨e | b, w₁⟩ <;> simp

/-- A call with a clean-up failed as it did without one, in the world that the clean-up leaves. -/
theorem cleaningUp_eq_error {x : Service α} {c : Service Unit} {w w' : World} {e : Failure} :
    cleaningUp x c w = (.error e, w') ↔ ∃ w₁, x w = (.error e, w₁) ∧ w' = (c w₁).2 := by
  unfold cleaningUp
  rcases x w with ⟨e' | b, w₁⟩
  · constructor
    · intro h
      simp only [Prod.mk.injEq, Except.error.injEq] at h
      obtain ⟨rfl, rfl⟩ := h
      exact ⟨w₁, rfl, rfl⟩
    · rintro ⟨w₂, h, rfl⟩
      simp only [Prod.mk.injEq, Except.error.injEq] at h
      obtain ⟨rfl, rfl⟩ := h
      rfl
  · simp

/-! ## What a call keeps -/

/-- A call, however it ends, leaves what `f` reads of a world as it was. -/
def Keeps (f : World → γ) (x : Service α) : Prop := ∀ w, f (x w).2 = f w

/-- What a call keeps, read off a run of it. -/
theorem Keeps.of_eq {f : World → γ} {x : Service α} (h : Keeps f x) {w w' : World} {r : Except Failure α}
    (hx : x w = (r, w')) : f w' = f w := by
  have := h w
  rwa [hx] at this

theorem Keeps.pure {f : World → γ} (a : α) : Keeps f (Pure.pure a : Service α) := fun _ => rfl

/-- A sequence keeps what its first call keeps, and its second call wherever the first one answered. -/
theorem Keeps.bind_of_ok {f : World → γ} {x : Service α} {g : α → Service β} (hx : Keeps f x)
    (hg : ∀ a w w₁, x w = (.ok a, w₁) → Keeps f (g a)) : Keeps f (x >>= g) := by
  intro w
  rcases hw : x w with ⟨e | a, w₁⟩
  · rw [bind_of_error hw]
    exact hx.of_eq hw
  · rw [Service.bind_of_ok hw]
    exact (hg a w w₁ hw w₁).trans (hx.of_eq hw)

theorem Keeps.bind {f : World → γ} {x : Service α} {g : α → Service β} (hx : Keeps f x) (hg : ∀ a, Keeps f (g a)) :
    Keeps f (x >>= g) :=
  hx.bind_of_ok fun a _ _ _ => hg a

/-- A call for each item of a list keeps what it keeps for each item. -/
theorem Keeps.forEach {f : World → γ} {g : α → Service Unit} :
    ∀ {l : List α}, (∀ a ∈ l, Keeps f (g a)) → Keeps f (Service.forEach g l)
  | [], _ => Keeps.pure ()
  | a :: l, h => Keeps.bind (h a (by simp)) fun _ => Keeps.forEach fun b hb => h b (by simp [hb])

theorem keeps_now {f : World → γ} : Keeps f now := fun _ => rfl

theorem keeps_database {f : World → γ} : Keeps f database := fun _ => rfl

theorem keeps_world {f : World → γ} : Keeps f world := fun _ => rfl

theorem keeps_lift {f : World → γ} (x : Except Failure α) : Keeps f (lift x) := fun _ => rfl

theorem keeps_fail {f : World → γ} (e : Failure) : Keeps f (fail e : Service α) := fun _ => rfl

theorem keeps_refuse {f : World → γ} (r : Refusal) : Keeps f (refuse r : Service α) := fun _ => rfl

/-- A look-up of a user changes nothing. -/
theorem keeps_user {f : World → γ} (id : String) (r : Refusal) : Keeps f (user id r) := by
  intro w
  unfold user
  split <;> rfl

/-- A look-up of a video changes nothing. -/
theorem keeps_video {f : World → γ} (id : Int) : Keeps f (video id) := by
  intro w
  unfold video
  split
  · split <;> rfl
  · rfl

/-- A look-up of a like uses up a stale look-up at most. -/
theorem keeps_like? {f : World → γ} (hf : ∀ w n, f { w with staleLikes := n } = f w) (user : String) (video : Int) :
    Keeps f (like? user video) := by
  intro w
  unfold like?
  split
  · rfl
  · exact hf w _

/-- Changing the tables changes nothing beside them. -/
theorem keeps_modifyDatabase {f : World → γ} (hf : ∀ w db, f { w with db := db } = f w) (g : Database → Database) :
    Keeps f (modifyDatabase g) := fun w => hf w _

theorem keeps_updateDatabase {f : World → γ} (hf : ∀ w db, f { w with db := db } = f w)
    (g : Database → Except Failure Database) : Keeps f (updateDatabase g) := by
  intro w
  unfold updateDatabase
  split
  · exact hf w _
  · rfl

/-- A transaction keeps, beside the tables, what the call in it keeps. -/
theorem keeps_transaction {f : World → γ} (hf : ∀ w db, f { w with db := db } = f w) {x : Service α} (hx : Keeps f x) :
    Keeps f (transaction x) := by
  intro w
  rcases hw : transaction x w with ⟨e | a, w'⟩
  · obtain ⟨w₁, h₁, rfl⟩ := transaction_eq_error.mp hw
    exact (hf w₁ _).trans (hx.of_eq h₁)
  · exact hx.of_eq (transaction_eq_ok.mp hw)

end Service

end VideoShare
