import VideoShare.Database
import VideoShare.Text.Blank
import VideoShare.Text.Case
import VideoShare.Text.Integer
import VideoShare.Text.Pieces

/-!
# Options of a search

A search names options and gives one value for each. An option is a condition on a row, and a row is found when it meets all of
them. The options are read one after the other and the first that is unknown or has an illegal value refuses the search; only
then is the search run, and only then does an integer too wide for a column make it fail.

A pattern finds a text with its letters compared without regard to ASCII case; in it a percent sign stands for any characters
and an underscore for one. Patterns and texts end at the first null character.
-/

namespace VideoShare

/-! ## Pairs and ranges -/

/-- The options in upper case, each with its value. -/
def pairOptions (options values : List String) : Except Refusal (List (String × String)) :=
  if options.length = values.length then .ok ((options.map Text.upper).zip values) else .error .unpairedOptions

/-- Reads a range: two integers with one slash between them. -/
def parseRange (option value : String) : Except Refusal (Int × Int) :=
  match Text.split '/' value with
  | [low, high] =>
    match Text.integerOf low, Text.integerOf high with
    | .ok a, .ok b => .ok (a, b)
    | _, _ => .error (.illegalOption option value)
  | _ => .error (.illegalOption option value)

/-! ## Patterns -/

/-- Takes a piece of a pattern without percent signs off a text: what follows it, where the text begins with it. -/
def takePiece : List Char → List Char → Option (List Char)
  | [], cs => some cs
  | p :: ps, c :: cs => if p == '_' || p.toLower == c.toLower then takePiece ps cs else none
  | _ :: _, [] => none

/-- What follows the first place of a text where a piece stands. -/
def skipPiece (piece : List Char) : List Char → Option (List Char)
  | [] => takePiece piece []
  | c :: cs => (takePiece piece (c :: cs)).orElse fun _ => skipPiece piece cs

/-- Whether a text holds pieces one after the other, with any characters before each of them, and ends with the last. The first
place where a piece stands leaves the most for the pieces behind it, so no other place has to be tried. -/
def holdsPieces : List (List Char) → List Char → Bool
  | [], _ => true
  | [last], cs => last.length ≤ cs.length && takePiece last (cs.drop (cs.length - last.length)) == some []
  | piece :: rest, cs => (skipPiece piece cs).any (holdsPieces rest)

/-- Whether a text matches a pattern. -/
def matchesPattern (pattern cs : List Char) : Bool :=
  match Text.splitAt '%' pattern with
  | [] => cs.isEmpty
  | [piece] => takePiece piece cs == some []
  | piece :: rest => (takePiece piece cs).any (holdsPieces rest)

/-- The characters before the first null character. -/
def untilNull (s : String) : List Char := s.toList.takeWhile (· != Char.ofNat 0)

/-- Whether a text has a part that matches a pattern. -/
def holdsPattern (pattern text : String) : Bool :=
  matchesPattern (untilNull ("%" ++ pattern ++ "%")) (untilNull text)

/-! ## Conditions on videos -/

/-- A condition on a video. -/
inductive VideoCondition where
  | titleLike (pattern : String)
  | hasId (id : Int)
  | viewsBetween (low high : Int)
  | likesBetween (low high : Int)
  deriving DecidableEq, Repr

namespace VideoCondition

/-- Reads a condition from an option and its value. -/
def ofOption (option value : String) : Except Refusal VideoCondition :=
  if option = "BY_TITLE" then .ok (.titleLike value)
  else if option = "BY_ID" then
    match Text.integerOf value with
    | .ok n => .ok (.hasId n)
    | .error _ => .error (.illegalOption option value)
  else if option = "BY_VIEWS" then (parseRange option value).map fun r => .viewsBetween r.1 r.2
  else if option = "BY_LIKES" then (parseRange option value).map fun r => .likesBetween r.1 r.2
  else .error (.unknownOption option)

/-- The integers that a condition hands to the database. -/
def integers : VideoCondition → List Int
  | .titleLike _ => []
  | .hasId id => [id]
  | .viewsBetween low high | .likesBetween low high => [low, high]

/-- Whether a video meets a condition. -/
def holds (db : Database) (v : Video) : VideoCondition → Bool
  | .titleLike pattern => holdsPattern pattern v.title
  | .hasId id => v.id == id
  | .viewsBetween low high => low ≤ v.views && v.views ≤ high
  | .likesBetween low high => low ≤ (db.likeCount v.id : Int) && (db.likeCount v.id : Int) ≤ high

end VideoCondition

/-! ## Conditions on users -/

/-- A condition on a user. -/
inductive UserCondition where
  | hasId (id : String)
  | usernameLike (pattern : String)
  | emailLike (pattern : String)
  | subscribersBetween (low high : Int)
  deriving DecidableEq, Repr

namespace UserCondition

/-- Reads a condition from an option and its value. -/
def ofOption (option value : String) : Except Refusal UserCondition :=
  if option = "BY_ID" then .ok (.hasId value)
  else if option = "BY_USERNAME" then .ok (.usernameLike value)
  else if option = "BY_EMAIL" then .ok (.emailLike value)
  else if option = "BY_SUBSCRIBERS" then (parseRange option value).map fun r => .subscribersBetween r.1 r.2
  else .error (.unknownOption option)

/-- The integers that a condition hands to the database. -/
def integers : UserCondition → List Int
  | .hasId _ | .usernameLike _ | .emailLike _ => []
  | .subscribersBetween low high => [low, high]

/-- Whether a user meets a condition; a user without an e-mail address is found by none. -/
def holds (db : Database) (u : User) : UserCondition → Bool
  | .hasId id => u.id == id
  | .usernameLike pattern => holdsPattern pattern u.username
  | .emailLike pattern => u.email.any (holdsPattern pattern)
  | .subscribersBetween low high => low ≤ (db.subscriberCount u.id : Int) && (db.subscriberCount u.id : Int) ≤ high

end UserCondition

/-! ## The searches -/

/-- Reads the conditions of a search. -/
def readConditions {γ : Type} (ofOption : String → String → Except Refusal γ) (options values : List String) :
    Except Refusal (List γ) := do
  let pairs ← pairOptions options values
  pairs.mapM fun p => ofOption p.1 p.2

/-- Runs a search: the conditions are read, their integers handed to the database, and the rows that they leave are the answer. -/
def search {γ ρ : Type} (ofOption : String → String → Except Refusal γ) (integers : γ → List Int) (rows : List γ → List ρ)
    (options values : List String) : Except Failure (List ρ) :=
  match readConditions ofOption options values with
  | .error r => .error (.refused r)
  | .ok conditions =>
    match checkColumns (conditions.flatMap integers) with
    | .error e => .error e
    | .ok _ => .ok (rows conditions)

namespace Database

/-- The videos that meet every condition, by id. -/
def videosMeeting (db : Database) (conditions : List VideoCondition) : List Video :=
  (db.videos.filter fun v => conditions.all (·.holds db v)).mergeSort fun a b => a.id ≤ b.id

/-- The users who meet every condition, by id. -/
def usersMeeting (db : Database) (conditions : List UserCondition) : List User :=
  (db.users.filter fun u => conditions.all (·.holds db u)).mergeSort fun a b => a.id ≤ b.id

/-- Searches the videos. -/
def findVideos (db : Database) (options values : List String) : Except Failure (List Video) :=
  search VideoCondition.ofOption VideoCondition.integers db.videosMeeting options values

/-- Searches the users. -/
def findUsers (db : Database) (options values : List String) : Except Failure (List User) :=
  search UserCondition.ofOption UserCondition.integers db.usersMeeting options values

end Database

end VideoShare
