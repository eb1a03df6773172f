/-!
# Sorting by runs

A stable sort that finds the runs in a list, lengthens short ones by insertion and merges neighbours. Two runs are merged entry by
entry until one of them wins so often in a row that it is worth leaping ahead in it. For an order this is a sort like any other.
For a relation that is no order there is nothing to be sorted by, and what comes out is fixed by the comparisons that are made;
each of them is therefore laid down here.
-/

namespace VideoShare.RunSort

variable {α : Type}

/-! ## Runs -/

/-- The length of the run at the beginning of a list: entries of which each one precedes the one before (a falling run), or none
does. -/
def runLength (precedes : α → α → Bool) (falling : Bool) : List α → Nat
  | a :: b :: rest => if precedes b a = falling then runLength precedes falling (b :: rest) + 1 else 1
  | [_] => 1
  | [] => 0

/-- The place of an entry in a part of a list, found by halving it: behind the middle one unless it precedes that. -/
def insertionPlace (precedes : α → α → Bool) (list : List α) (e : α) : Nat → Nat → Nat → Nat
  | 0, low, _ => low
  | fuel + 1, low, high =>
    if low < high then
      let middle := low + (high - low) / 2
      match list[middle]? with
      | some m =>
        if precedes e m then insertionPlace precedes list e fuel low middle
        else insertionPlace precedes list e fuel (middle + 1) high
      | none => low
    else low

/-- A list with an entry at its place. -/
def insert (precedes : α → α → Bool) (list : List α) (e : α) : List α :=
  let place := insertionPlace precedes list e list.length 0 list.length
  list.take place ++ e :: list.drop place

/-- The run at the beginning of a list, turned when it falls and lengthened by insertion to a least length, and what follows it. -/
def takeRun (precedes : α → α → Bool) (least : Nat) (list : List α) : List α × List α :=
  let falling := match list with
    | a :: b :: _ => precedes b a
    | _ => false
  let n := runLength precedes falling list
  let run := list.take n
  let more := (list.drop n).take (least - n)
  (more.foldl (insert precedes) (if falling then run.reverse else run), list.drop (max n least))

/-- The least length of a run in a list of a length: from 32 to 64, so that the number of runs is a power of two or a little less
than one. A list of fewer than 64 entries is one run. -/
def leastRun (carry n : Nat) : Nat :=
  if h : n < 64 then n + carry else leastRun (max carry (n % 2)) (n / 2)
termination_by n
decreasing_by omega

/-! ## Leaping -/

/-- Leaps ahead in a list from a place as long as the entries have a property, each leap twice as long as the one before: the last
place where they do, and the first one known where they do not. -/
def leap (p : α → Bool) (list : List α) : Nat → Nat → Nat → Nat × Nat
  | 0, last, next => (last, next)
  | fuel + 1, last, next =>
    match list[next]? with
    | some x => if p x then leap p list fuel next (2 * next + 1) else (last, next)
    | none => (last, list.length)

/-- The first place of a part of a list where the entries do not have a property, found by halving it. Of two middle entries the
second one is asked, or in a list that stands for one read backwards the first. -/
def halve (backward : Bool) (p : α → Bool) (list : List α) : Nat → Nat → Nat → Nat
  | 0, low, _ => low
  | fuel + 1, low, high =>
    if low < high then
      let middle := low + (high - low - (if backward then 1 else 0)) / 2
      match list[middle]? with
      | some x => if p x then halve backward p list fuel (middle + 1) high else halve backward p list fuel low middle
      | none => low
    else low

/-- The number of entries at the beginning of a list that have a property, found by leaping. -/
def countLeaping (backward : Bool) (p : α → Bool) (list : List α) : Nat :=
  if list.head?.any p then
    let (last, next) := leap p list list.length 0 1
    halve backward p list list.length (last + 1) next
  else 0

/-! ## Merging two runs -/

/-- A merge on its way: what is left of the two runs, and what is merged, the last entry first. -/
structure Merge (α : Type) where
  shorter : List α
  longer : List α
  merged : List α := []

namespace Merge

/-- Whether all that is left to do is to append what remains, the last entry of the shorter run at the end. -/
def isOver (m : Merge α) : Bool := m.longer.isEmpty || m.shorter.length ≤ 1

/-- The merge after some entries of the shorter run. -/
def takeShorter (m : Merge α) (n : Nat) : Merge α :=
  { m with shorter := m.shorter.drop n, merged := (m.shorter.take n).reverse ++ m.merged }

/-- The merge after some entries of the longer run. -/
def takeLonger (m : Merge α) (n : Nat) : Merge α :=
  { m with longer := m.longer.drop n, merged := (m.longer.take n).reverse ++ m.merged }

/-- The merged runs. -/
def result (m : Merge α) : List α := m.merged.reverse ++ m.longer ++ m.shorter

/-- Merges entry by entry until one run has won `limit` times in a row. `longerWins` says of an entry of the shorter and one of the
longer run whether the latter is next. -/
def alternate (longerWins : α → α → Bool) (limit : Nat) : Nat → Nat → Nat → Merge α → Merge α
  | 0, _, _, m => m
  | fuel + 1, shorterCount, longerCount, m =>
    if m.isOver then m
    else
      match m.shorter, m.longer with
      | x :: _, y :: _ =>
        if longerWins x y then
          if limit ≤ longerCount + 1 then m.takeLonger 1
          else alternate longerWins limit fuel 0 (longerCount + 1) (m.takeLonger 1)
        else
          if limit ≤ shorterCount + 1 then m.takeShorter 1
          else alternate longerWins limit fuel (shorterCount + 1) 0 (m.takeShorter 1)
      | _, _ => m

/-- Leaps ahead in the shorter run and takes one entry of the longer one: the length of the leap, and the merge after it. -/
def leapShorter (backward : Bool) (longerWins : α → α → Bool) (m : Merge α) : Nat × Merge α :=
  match m.isOver, m.longer with
  | false, y :: _ =>
    let n := countLeaping backward (fun x => !longerWins x y) m.shorter
    let m := m.takeShorter n
    (n, if m.isOver then m else m.takeLonger 1)
  | _, _ => (0, m)

/-- Leaps ahead in the longer run and takes one entry of the shorter one: the length of the leap, and the merge after it. -/
def leapLonger (backward : Bool) (longerWins : α → α → Bool) (m : Merge α) : Nat × Merge α :=
  match m.isOver, m.shorter with
  | false, x :: _ =>
    let n := countLeaping backward (longerWins x) m.longer
    let m := m.takeLonger n
    (n, if m.isOver then m else m.takeShorter 1)
  | _, _ => (0, m)

/-- The leap from which on leaping goes on. -/
def longLeap : Nat := 7

/-- Leaps in both runs in turn as long as one of the leaps is long. Every round makes it easier to leap again and the end of them
harder: the limit of wins in a row goes down and up by one. A merge that goes forward leaps in the shorter run first. -/
def leaps (backward : Bool) (longerWins : α → α → Bool) : Nat → Nat → Merge α → Nat × Merge α
  | 0, limit, m => (limit, m)
  | fuel + 1, limit, m =>
    let limit := if 1 < limit then limit - 1 else limit
    let first := if backward then leapLonger backward longerWins m else leapShorter backward longerWins m
    let second := if backward then leapShorter backward longerWins first.2 else leapLonger backward longerWins first.2
    if second.2.isOver then (limit, second.2)
    else if longLeap ≤ first.1 ∨ longLeap ≤ second.1 then leaps backward longerWins fuel limit second.2
    else (limit + 1, second.2)

/-- Merges until nothing but appending is left. -/
def finish (backward : Bool) (longerWins : α → α → Bool) : Nat → Nat → Merge α → Nat × Merge α
  | 0, limit, m => (limit, m)
  | fuel + 1, limit, m =>
    let size := m.shorter.length + m.longer.length
    if m.isOver then (limit, m)
    else
      let m := alternate longerWins limit size 0 0 m
      if m.isOver then (limit, m)
      else
        let (limit, m) := leaps backward longerWins size (limit + 1) m
        finish backward longerWins fuel limit m

end Merge

/-- Merges two neighbouring runs, given the limit of wins in a row; the limit changes with it. What stands at the beginning of the
first run or at the end of the second and is in its place already stays out of the merge. When the first run is the longer one the
merge goes backward. -/
def mergeRuns (precedes : α → α → Bool) (limit : Nat) (a b : List α) : Nat × List α :=
  let ahead := b.head?.elim 0 fun y => countLeaping false (fun x => !precedes y x) a
  let front := a.take ahead
  let a := a.drop ahead
  match a.getLast? with
  | none => (limit, front ++ b)
  | some x =>
    let behind := countLeaping true (fun y => !precedes y x) b.reverse
    let back := b.drop (b.length - behind)
    let b := b.take (b.length - behind)
    if b.isEmpty then (limit, front ++ a ++ back)
    else if a.length ≤ b.length then
      let m : Merge α := { shorter := a, longer := b }
      let (limit, m) := Merge.finish false (fun x y => precedes y x) (a.length + b.length) limit (m.takeLonger 1)
      (limit, front ++ m.result ++ back)
    else
      let m : Merge α := { shorter := b.reverse, longer := a.reverse }
      let (limit, m) := Merge.finish true precedes (a.length + b.length) limit (m.takeLonger 1)
      (limit, front ++ m.result.reverse ++ back)

/-! ## The order of the merges -/

/-- A run that waits to be merged: where it begins, its entries, and the power of the border between it and the next one. -/
structure Run (α : Type) where
  start : Nat
  items : List α
  power : Nat := 0

/-- The power of the border between two runs in a list of length `n`: the first binary place in which the middles of the two runs,
as fractions of the list, differ. `a` and `b` are twice the middles. -/
def power (n : Nat) : Nat → Nat → Nat → Nat
  | 0, _, _ => 0
  | fuel + 1, a, b =>
    if n ≤ a then power n fuel (2 * (a - n)) (2 * (b - n)) + 1
    else if n ≤ b then 1
    else power n fuel (2 * a) (2 * b) + 1

/-- The runs that wait, the last one first, and the limit of wins in a row for the next merge. -/
structure Waiting (α : Type) where
  runs : List (Run α)
  limit : Nat := Merge.longLeap

/-- Merges the last two runs as long as the border before them has a greater power than a given one. -/
def mergeAbove (precedes : α → α → Bool) (power : Nat) : Nat → Waiting α → Waiting α
  | 0, w => w
  | fuel + 1, w =>
    match w.runs with
    | z :: y :: rest =>
      if power < y.power then
        let (limit, items) := mergeRuns precedes w.limit y.items z.items
        mergeAbove precedes power fuel ⟨{ y with items := items } :: rest, limit⟩
      else w
    | _ => w

/-- Adds a run of the list of length `n`. -/
def addRun (precedes : α → α → Bool) (n : Nat) (w : Waiting α) (run : List α) : Waiting α :=
  match w.runs with
  | [] => { w with runs := [⟨0, run, 0⟩] }
  | z :: _ =>
    let a := 2 * z.start + z.items.length
    let border := power n (n + 2) a (a + z.items.length + run.length)
    let w := mergeAbove precedes border w.runs.length w
    let start := z.start + z.items.length
    match w.runs with
    | last :: rest => { w with runs := ⟨start, run, 0⟩ :: { last with power := border } :: rest }
    | [] => { w with runs := [⟨start, run, 0⟩] }

/-- Finds the runs of a list and adds them. -/
def addRuns (precedes : α → α → Bool) (n least : Nat) : Nat → Waiting α → List α → Waiting α
  | 0, w, _ => w
  | fuel + 1, w, list =>
    if list.isEmpty then w
    else
      let (run, rest) := takeRun precedes least list
      addRuns precedes n least fuel (addRun precedes n w run) rest

/-- Merges all runs that wait: the last two, or the two before the last one when the first of them is shorter than that. -/
def mergeAll (precedes : α → α → Bool) : Nat → Waiting α → List α
  | 0, w => (w.runs.reverse.map (·.items)).flatten
  | fuel + 1, w =>
    match w.runs with
    | z :: y :: x :: rest =>
      if x.items.length < z.items.length then
        let (limit, items) := mergeRuns precedes w.limit x.items y.items
        mergeAll precedes fuel ⟨z :: { x with items := items } :: rest, limit⟩
      else
        let (limit, items) := mergeRuns precedes w.limit y.items z.items
        mergeAll precedes fuel ⟨{ y with items := items } :: x :: rest, limit⟩
    | [z, y] => (mergeRuns precedes w.limit y.items z.items).2
    | [z] => z.items
    | [] => []

/-- A list in its order. -/
def sort (precedes : α → α → Bool) (list : List α) : List α :=
  let n := list.length
  let waiting := addRuns precedes n (leastRun 0 n) n ⟨[], Merge.longLeap⟩ list
  mergeAll precedes waiting.runs.length waiting

end VideoShare.RunSort
