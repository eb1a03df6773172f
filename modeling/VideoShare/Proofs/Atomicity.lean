import VideoShare.Proofs.Calls

/-!
# Failures leave the tables alone

A call may fail when it has changed many rows already: the folder of a user who leaves is listed after the user's rows are gone, a
reply is awaited after the metadata of a video has changed, a view is one too many for its column after the watch was entered in the
history. Whatever it was, the tables are those from before the call. The making of a video is the one call that is not a transaction
from its beginning to its end; every other one is, and the toggle of a like is two of them at most, of which the second begins where
the first began.

In a replay such failures can be left out.
-/

namespace VideoShare

/-- Whether a call is transactions and nothing else. The making of a video notifies after its transaction. -/
def Call.isTransaction : Call → Bool
  | .createVideo .. => false
  | _ => true

/-- The tables after a transaction that failed. -/
theorem Call.Effect.db_eq_of_error {s : Settings} {w : World} {c : Call} {e : Failure} {db : Database}
    (h : c.Effect s w (.error e) db) (hc : c.isTransaction = true) : db = w.db := by
  cases h with
  | failed => rfl
  | createVideo => simp [Call.isTransaction] at hc

/-! ## Single calls -/

/-- Every call that changes tables leaves them as they were when it fails, except for the making of a video. The world around the
tables is any: store, queues, replies, clock and stale look-ups may let the call fail wherever they can. -/
theorem failed_call_keeps_tables (s : Settings) (c : Call) (hc : c.isTransaction = true) (w w' : World) (e : Failure)
    (h : c.perform s w = (.error e, w')) : w'.db = w.db :=
  (Call.effect_of_error h).db_eq_of_error hc

/-! ### A folder that cannot be removed -/

namespace BrokenFolder

/-- Ann, who owns two videos that Bob likes. The store breaks when the object of the second one is to be removed. -/
def world : World where
  db := {
    users := [⟨"ann", "Ann", none, none, "ROLE_USER", 0⟩, ⟨"bob", "Bob", none, none, "ROLE_USER", 0⟩]
    videos := [⟨1, "ann", "Surf", none, "Sport", "en", 60, 0, 0⟩, ⟨2, "ann", "Golf", none, "Sport", "en", 60, 0, 0⟩]
    likes := [⟨"bob", 1, 0⟩, ⟨"bob", 2, 0⟩] }
  store := {
    objects := [("videos/1/index.mp4", "surf"), ("videos/2/index.mp4", "golf")]
    rules := [⟨.remove, "videos/2/", .broken "disk", none⟩] }

def leaving : Except Failure Unit × World := (Call.deleteUser "ann").perform {} world

/-- Ann does not get away. Her rows, her videos and Bob's likes were removed and are back; the object of her first video is gone. -/
theorem rows_are_back :
    leaving.1 = .error (.storeBroke "disk") ∧ leaving.2.store.objects = [("videos/2/index.mp4", "golf")] ∧
      leaving.2.db = world.db := by
  have hfailed : leaving.1 = .error (.storeBroke "disk") := by decide +kernel
  exact ⟨hfailed, by decide +kernel, failed_call_keeps_tables {} (.deleteUser "ann") rfl world leaving.2 _ (Prod.ext hfailed rfl)⟩

end BrokenFolder

/-! ## Replays -/

/-- The steps of a run from some tables on, without the transactions that failed. -/
def lastingSteps (s : Settings) : Database → List Step → List Step
  | _, [] => []
  | db, step :: rest =>
    match (step.call.perform s (step.world db)).1, step.call.isTransaction with
    | .error _, true => lastingSteps s db rest
    | _, _ => step :: lastingSteps s (step.run s db) rest

/-- A run without the transactions that failed ends in the same tables. -/
theorem foldl_lastingSteps (s : Settings) (steps : List Step) :
    ∀ db, (lastingSteps s db steps).foldl (Step.run s) db = steps.foldl (Step.run s) db := by
  induction steps with
  | nil => exact fun _ => rfl
  | cons step rest ih =>
    intro db
    unfold lastingSteps
    split
    · rename_i e hfailed hc
      have heffect := step.call.effect_perform s (step.world db)
      rw [hfailed] at heffect
      have hkept : step.run s db = db := heffect.db_eq_of_error hc
      rw [ih, List.foldl_cons, hkept]
    · rw [List.foldl_cons, List.foldl_cons, ih]

end VideoShare
