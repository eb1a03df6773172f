import VideoShare.Text.Integer
import VideoShare.Text.Pieces

/-!
# The command line of the sample data

Four options take an integer each; an option may be cut short as long as only one begins that way, and its value follows as the
next word or after an equals sign. A word that begins with a hyphen is a value only if it is a negative number or holds a blank.
The words are sorted first, so that an ambiguous one is refused whatever else is asked; then they are obeyed from left to right,
and what nobody asked for is refused at the end.
-/

namespace VideoShare.SampleData

/-- The options that take a value. -/
inductive Setting where
  | users | videos | workers | seed
  deriving DecidableEq, Repr

/-- What is to be made. -/
structure Options where
  users : Int := 20
  videos : Int := 100
  workers : Int := 8
  seed : Option Int := none
  deriving DecidableEq, Repr

/-- What a command line asks for. -/
inductive Command where
  | help
  | create (options : Options)
  deriving DecidableEq, Repr

/-- Why a command line is refused. -/
inductive UsageFault where
  | ambiguous
  | missingValue
  | malformedValue
  | unwantedValue
  | unknownWord
  deriving DecidableEq, Repr

/-- What is said of a refused command line. -/
def UsageFault.message : UsageFault → String
  | .ambiguous => "ambiguous option"
  | .missingValue => "expected one argument"
  | .malformedValue => "invalid int value"
  | .unwantedValue => "ignored explicit argument"
  | .unknownWord => "unrecognized arguments"

/-- The exit status of a refused command line. -/
def usageStatus : UInt32 := 2

/-! ## Words -/

/-- What a word of the command line is. -/
inductive Word where
  | value (s : String)
  | separator
  | help
  /-- The option that asks for help with a value, which it does not take. -/
  | helpWithValue
  | setting (o : Setting) (value : Option String)
  | ambiguous
  | unknown
  deriving DecidableEq, Repr

/-- The long names of the options; that of none is the one that asks for help. -/
def longNames : List (String × Option Setting) :=
  [("--help", none), ("--users", some .users), ("--videos", some .videos), ("--workers", some .workers),
    ("--seed", some .seed)]

/-- The word for an option with or without a value. -/
def optionWord (o : Option Setting) (value : Option String) : Word :=
  match o, value with
  | some o, value => .setting o value
  | none, none => .help
  | none, some _ => .helpWithValue

/-- Sorts a word that begins with two hyphens: a full name, or a part of a single one, and possibly a value. -/
def longWord (cs : List Char) : Word :=
  let name := String.ofList (Text.beforeFirst '=' cs)
  let value := if cs.contains '=' then some (String.ofList (Text.afterFirst '=' cs)) else none
  match longNames.lookup name, longNames.filter fun n => Text.startsWith n.1 name with
  | some o, _ => optionWord o value
  | none, [] => if cs.contains ' ' then .value (String.ofList cs) else .unknown
  | none, [n] => optionWord n.2 value
  | none, _ => .ambiguous

/-- Sorts what follows the short name of the option that asks for help: nothing, or the same letter again, which may stand behind an
equals sign. Anything else would be a value. -/
def helpTail (tail : List Char) : Word :=
  let letters := if tail.head? = some '=' ∧ 1 < tail.length then tail.drop 1 else tail
  if letters.all (· == 'h') then .help else .helpWithValue

/-- Whether a character is a decimal digit of any script. -/
def isDigit (c : Char) : Bool := (Text.digitValue? c).isSome

/-- Whether what follows a hyphen makes it a negative number: digits, or digits behind a point with or without digits before it;
a line end may follow. -/
def isNegativeNumber (cs : List Char) : Bool :=
  let cs := if cs.getLast? = some '\n' then cs.dropLast else cs
  match cs.dropWhile isDigit with
  | [] => !cs.isEmpty
  | '.' :: places => !places.isEmpty && places.all isDigit
  | _ => false

/-- Sorts a word. -/
def Word.ofText (s : String) : Word :=
  match s.toList with
  | '-' :: 'h' :: tail => helpTail tail
  | ['-', '-'] => .separator
  | '-' :: '-' :: rest => longWord ('-' :: '-' :: rest)
  | ['-'] => .value s
  | '-' :: rest => if isNegativeNumber rest || rest.contains ' ' then .value s else .unknown
  | _ => .value s

/-- Sorts the words of a command line; behind a separator every word is a value. -/
def sortWords : List String → List Word
  | [] => []
  | s :: rest =>
    match Word.ofText s with
    | .separator => .separator :: rest.map .value
    | word => word :: sortWords rest

/-! ## Obeying -/

/-- The options with one of them set. -/
def Options.set (o : Options) (setting : Setting) (n : Int) : Options :=
  match setting with
  | .users => { o with users := n }
  | .videos => { o with videos := n }
  | .workers => { o with workers := n }
  | .seed => { o with seed := some n }

/-- Sets an option to a number written as text. -/
def Options.read (o : Options) (setting : Setting) (text : String) : Except UsageFault Options :=
  match Text.integerOf text with
  | .ok n => .ok (o.set setting n)
  | .error _ => .error .malformedValue

/-- Obeys words from left to right. Words that nobody asked for are refused at the end. -/
def obey (o : Options) (unwanted : Bool) : List Word → Except UsageFault Command
  | [] => if unwanted then .error .unknownWord else .ok (.create o)
  | .help :: _ => .ok .help
  | .helpWithValue :: _ => .error .unwantedValue
  | .ambiguous :: _ => .error .ambiguous
  | .setting s (some text) :: rest =>
    match o.read s text with
    | .ok o => obey o unwanted rest
    | .error f => .error f
  | .setting s none :: .value text :: rest =>
    match o.read s text with
    | .ok o => obey o unwanted rest
    | .error f => .error f
  | .setting _ none :: _ => .error .missingValue
  | .value _ :: rest | .separator :: rest | .unknown :: rest => obey o true rest

/-- Reads a command line. -/
def readCommandLine (words : List String) : Except UsageFault Command :=
  let sorted := sortWords words
  if sorted.contains .ambiguous then .error .ambiguous else obey {} false sorted

/-- How the program is called. -/
def usage : String := "usage: sample-data [-h] [--users USERS] [--videos VIDEOS] [--workers WORKERS] [--seed SEED]"

end VideoShare.SampleData
