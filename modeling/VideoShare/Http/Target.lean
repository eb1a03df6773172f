import VideoShare.Http.FormText

/-!
# Targets of requests

A target is a path and a query. A caller's address may name a scheme and a host, which are skipped, and may climb up and down its
path with one or two points, which is done before anything else is read. The path is then read twice over for percent escapes:
once by the caller, who writes it anew, and once on arrival.
-/

namespace VideoShare.Http

open Text

/-- The path of a request, and its query as it was written. -/
structure Target where
  path : String
  query : String
  deriving DecidableEq, Repr

/-- The steps of a path after one more: a point stays, two points go up as far as there is anything above. -/
def takeStep (steps : List String) (step : String) : List String :=
  if step = "." then steps
  else if step = ".." then (if steps = [] ∨ steps = [""] then steps else steps.dropLast)
  else steps ++ [step]

/-- A path without steps of points. -/
def plainPath (path : String) : String :=
  let steps := split '/' path
  if steps.contains "." || steps.contains ".." then "/".intercalate (steps.foldl takeStep []) else path

/-- What follows the scheme in an address. -/
def skipScheme (cs : List Char) : List Char :=
  let rest := cs.dropWhile fun c => c.isAlphanum || c == '+' || c == '.' || c == '-'
  if rest.head? = some ':' ∧ cs.head?.any fun c => c.isAlpha || c == ':' then rest.drop 1 else cs

/-- What follows the host in an address. -/
def skipHost : List Char → List Char
  | '/' :: '/' :: rest => rest.dropWhile (· != '/')
  | cs => cs

/-- Reads an address. -/
def Target.ofText (address : String) : Target :=
  let cs := beforeFirst '#' address.toList
  let written := (skipHost (skipScheme (beforeFirst '?' cs))).dropWhile (· == '/')
  let path := plainPath (String.ofList ('/' :: written))
  { path := percentDecode (percentDecode (if path = "" then "/" else path))
    query := String.ofList (afterFirst '?' cs) }

/-- The target of a caller who is sent to another path: the path is climbed again and written anew, and what is left of its percent
escapes is read once more on arrival. -/
def Target.redirected (t : Target) (path : String) : Target := { t with path := percentDecode (plainPath path) }

/-- The address of a path with a query. -/
def addressOf (path query : String) : String := if query = "" then path else path ++ "?" ++ query

end VideoShare.Http
