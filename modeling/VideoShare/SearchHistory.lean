import VideoShare.Settings
import VideoShare.World

/-!
# The search history

What a user searched for, newest first, each option once. Searching again for an option gives its entry the date of now; a new
option is added and pushes the oldest entries out, so that the history does not outgrow its bound.
-/

namespace VideoShare

/-- What is left of a list behind a number of items; a negative number counts the items to be left from the end. -/
def dropFrom {α : Type} (n : Int) (list : List α) : List α :=
  if 0 ≤ n then list.drop n.toNat else list.drop (list.length - n.natAbs)

namespace Service

/-- Adds an option to a user's search history. -/
def addSearch (s : Settings) (userId option : String) : Service Unit := transaction do
  let _ ← user userId .noUser
  let db ← database
  let t ← now
  match db.search? userId option with
  | some entry => modifyDatabase (·.redateSearch entry.id t)
  | none =>
    let outdated := dropFrom (s.maxSearchOptions - 1) (db.searchesOf userId)
    modifyDatabase (·.replaceSearches (outdated.map (·.id)) userId option t)

/-- A user's search history, newest first. -/
def searchHistory (userId : String) : Service (List Search) := do
  let _ ← user userId .noUser
  pure ((← database).searchesOf userId)

/-- Removes an option from a user's search history. -/
def deleteSearch (userId option : String) : Service Unit := transaction do
  let _ ← user userId .noUser
  match (← database).search? userId option with
  | none => refuse .noSearchOption
  | some entry => modifyDatabase (·.removeSearch entry.id)

end Service

end VideoShare
