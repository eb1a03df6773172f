import VideoShare.SampleData
import VideoShare.SampleData.CommandLine

/-!
# The program that makes sample data

The program reads its command line, makes sample users and videos in an empty world, and says how many there are. With a seed it
draws the same numbers every time.
-/

namespace VideoShare.SampleData

/-- A number without a visible relation to another. -/
def scrambled (n : UInt64) : UInt64 :=
  let n := (n ^^^ (n >>> 30)) * 0xBF58476D1CE4E5B9
  let n := (n ^^^ (n >>> 27)) * 0x94D049BB133111EB
  n ^^^ (n >>> 31)

/-- The sources of random numbers that grow from a seed. -/
def seededSource (seed : Nat) (k : Nat) : Draws where
  number := fun i => (scrambled (scrambled (scrambled seed.toUInt64 + k.toUInt64) + i.toUInt64)).toNat

/-- The beginning of the year 2024, at which the clock of the program stands. -/
def programStart : Instant := (dayOfDate? 2024 1 1).getD 0 * Duration.day

/-- What the program says when it is done. -/
def summary (users videos asked : Int) : String := s!"created {users} users and {videos}/{asked} videos"

/-- Makes sample data. -/
def createData (o : Options) : IO UInt32 := do
  let seed ← match o.seed with
    | some n => pure n.natAbs
    | none => IO.rand 0 (Nat.pow 2 62)
  let start : World := { now := programStart }
  match (Service.createSampleData o.users.toNat o.videos.toNat (seededSource seed)).run start with
  | (.ok (users, videos), _) =>
    IO.println (summary users videos o.videos)
    return 0
  | (.error e, _) =>
    IO.eprintln (e.message.getD "two rows have one key")
    return 1

/-- Obeys a command line. -/
def run (args : List String) : IO UInt32 := do
  match readCommandLine args with
  | .ok .help =>
    IO.println usage
    return 0
  | .ok (.create o) => createData o
  | .error f =>
    IO.eprintln usage
    IO.eprintln f.message
    return usageStatus

end VideoShare.SampleData

/-- Makes sample data as the command line says. -/
def main (args : List String) : IO UInt32 := VideoShare.SampleData.run args
