import VideoShare.Number.RealText
import VideoShare.RunSort
import VideoShare.Text.Blank
import VideoShare.Text.Case
import VideoShare.Text.Pieces

/-!
# Languages

A language is named by a lower-case code. The language of a video is the one given, or the one detected in its title. The
languages of a request are listed in it, or they are taken from its header of accepted languages, the most wanted first: an
entry of the header is a language, an optional region after a hyphen, and an optional weight. An entry without a weight has
weight one, one whose weight is no number has weight zero, and only a weight that is positive or not a number at all is
accepted.
-/

namespace VideoShare

open Number (Binary64)
open Text

/-! ## Detection -/

/-- The language of a text: what the detector found in it, without a region and in lower case, or the fallback where the text is
blank or the detector found nothing. -/
def detectLanguage (fallback : String) (detected : Option String) (text : Option String) : String :=
  match text, detected with
  | some t, some code => if allBlank t then fallback else lower (String.ofList (beforeFirst '-' code.toList))
  | _, _ => fallback

/-- The language of a new video: the one given, in lower case, or the one detected in the title. -/
def languageOfUpload (fallback : String) (detected : Option String) (given : Option String) (title : String) : String :=
  match given with
  | some code => if code = "" then detectLanguage fallback detected (some title) else lower code
  | none => detectLanguage fallback detected (some title)

/-! ## The header of accepted languages -/

/-- An entry of the header: a language and its weight. -/
structure LanguageEntry where
  code : String
  weight : Binary64
  deriving DecidableEq, Repr

/-- The weight of an entry, given what stands after its first semicolon. -/
def readWeight (parameters : List Char) : Binary64 :=
  match trimBoth isBlank parameters with
  | 'q' :: '=' :: number => (Number.realOfList? number).getD .zero
  | _ => .one

/-- Reads an entry. -/
def readEntry (cs : List Char) : LanguageEntry :=
  let entry := trimBoth isBlank cs
  { code := lower (trim (String.ofList (beforeFirst '-' (beforeFirst ';' entry))))
    weight := readWeight (afterFirst ';' entry) }

/-- Whether a weight is zero or less. -/
def isRefusedWeight (w : Binary64) : Bool :=
  match w with
  | .nan => false
  | _ => !(Binary64.zero.lt w)

/-- Whether an entry is accepted: it names a language, and its weight is not zero or less. -/
def LanguageEntry.isAccepted (e : LanguageEntry) : Bool :=
  e.code != "" && e.code != "*" && !isRefusedWeight e.weight

/-- The accepted entries of a header, in the order written. -/
def acceptedEntries (header : String) : List LanguageEntry :=
  ((splitAt ',' header.toList).map readEntry).filter (·.isAccepted)

/-! ## Their order -/

/-- Whether an entry at a place stands before one at another: it weighs more, or it weighs the same and comes first. A weight that
is not a number compares with none. -/
def precedes (a b : LanguageEntry × Nat) : Bool :=
  b.1.weight.lt a.1.weight ||
    (!a.1.weight.isNan && !b.1.weight.isNan && !(a.1.weight.lt b.1.weight) && a.2 < b.2)

/-- Entries in their order. Where every weight is a number the heaviest come first, those of one weight in the order
written; where one is not, the comparisons are no order and what they are asked decides. -/
def orderEntries (entries : List LanguageEntry) : List LanguageEntry :=
  if entries.any (·.weight.isNan) then (RunSort.sort precedes entries.zipIdx).map (·.1)
  else entries.mergeSort fun a b => !(a.weight.lt b.weight)

/-! ## The languages of a request -/

/-- The languages listed in a request, each once, in the order listed. -/
def listedLanguages (list : String) : List String :=
  (((split ',' list).map fun part => lower (trim part)).filter (· != "")).eraseDups

/-- The languages of a header, each once, the most wanted first. -/
def acceptedLanguages (header : String) : List String :=
  ((orderEntries (acceptedEntries header)).map (·.code)).eraseDups

/-- The languages of a request: those listed when the list is not empty, and those of the header when it is. -/
def requestedLanguages (list header : Option String) : List String :=
  match list with
  | some l => if l = "" then acceptedLanguages (header.getD "") else listedLanguages l
  | none => acceptedLanguages (header.getD "")

end VideoShare
