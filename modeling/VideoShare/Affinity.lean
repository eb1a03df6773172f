import VideoShare.Settings
import VideoShare.World

/-!
# Affinity

How much a user likes a category or a language: a score for each, counted up by one with every watch. A missing row is a score
of zero, and a row whose score falls to zero is removed. A score decays by being multiplied with a factor and rounded down; the
product with a double is the rounded product of doubles. A score that leaves the integers of its column becomes the double next
to them, to which one more makes no difference.
-/

namespace VideoShare

open Number (Binary64 Quantity)

/-- The greatest score, which is the only one that is a double. -/
def scoreLimit : Int := 9223372036854775808

/-- A score as a value. -/
def scoreJson (score : Int) : Json := if score < scoreLimit then .int score else .real (Binary64.ofInt score)

/-- A score times a double, rounded down. -/
def scaleByReal (score : Int) (x : Binary64) : Except Failure Int :=
  match (Binary64.ofInt score).mul x with
  | .nan => .error (.notWhole .undefined)
  | .infinite _ => .error (.notWhole .infinite)
  | .finite negative m e => .ok (Binary64.floorDyadic negative m e)

/-- A score times a factor, rounded down. -/
def scaleScore (score : Int) : Quantity → Except Failure Int
  | .real x => scaleByReal score x
  | .whole n =>
    if score < scoreLimit then .ok (score * n)
    else
      match Binary64.ofInt n with
      | .infinite _ => .error .hugeFactor
      | x => scaleByReal score x

/-- The categories and the languages a user has a positive score for, with the scores. -/
structure Affinity where
  categories : List (String × Int)
  languages : List (String × Int)
  deriving DecidableEq, Repr

/-- A table of scores after one more point for a user and a key. -/
def countUp (user key : String) (rows : List Score) : List Score :=
  if (Database.score? rows user key).isSome then
    rows.map fun s => if s.userId == user && s.key == key then { s with score := min (s.score + 1) scoreLimit } else s
  else rows ++ [⟨user, key, 1⟩]

/-- A table of scores with another score for a user and a key; a score that is not positive is removed. -/
def setScore (user key : String) (score : Int) (rows : List Score) : List Score :=
  if score ≤ 0 then rows.filter fun s => !(s.userId == user && s.key == key)
  else rows.map fun s => if s.userId == user && s.key == key then { s with score := score } else s

namespace Database

/-- The positive scores of a user in a table. -/
def positiveScores (rows : List Score) (user : String) : List (String × Int) :=
  (rows.filter fun s => s.userId == user && 0 < s.score).map fun s => (s.key, s.score)

/-- The affinity of a user. -/
def affinity (db : Database) (user : String) : Affinity where
  categories := positiveScores db.categoryScores user
  languages := positiveScores db.languageScores user

/-- One more point for a category and a language. -/
def countWatch (db : Database) (user category language : String) : Database :=
  { db with
    categoryScores := countUp user category db.categoryScores
    languageScores := countUp user language db.languageScores }

/-- A user's score for a category decayed by a factor: the new score, or none when there is no row to decay. -/
def decayCategory (db : Database) (user category : String) (f : Quantity) : Except Failure (Option Int × Database) :=
  match score? db.categoryScores user category with
  | none => .ok (none, db)
  | some row =>
    match scaleScore row.score f with
    | .error e => .error e
    | .ok score =>
      if score ≤ 0 then .ok (some 0, { db with categoryScores := setScore user category score db.categoryScores })
      else if score = row.score then .ok (some score, db)
      else if fitsColumn score then
        .ok (some score, { db with categoryScores := setScore user category score db.categoryScores })
      else .error .integerTooWide

end Database

namespace Service

/-- Decays a user's score for a category. -/
def decayCategory (user category : String) (f : Quantity) : Service (Option Int) := fun w =>
  match w.db.decayCategory user category f with
  | .error e => (.error e, w)
  | .ok (score, db) => (.ok score, { w with db := db })

end Service

end VideoShare
