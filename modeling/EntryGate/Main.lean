import EntryGate.Command.Help
import EntryGate.Command.Run
import EntryGate.Identifier
import Std.Time.DateTime.Timestamp

/-!
# The program

Reads the files that a command needs, the clock and a source of random bytes, runs the command, and
prints its answer.
-/

namespace EntryGate

/-- The content of a file, if it can be read. -/
def readFile? (path : String) : IO (Option String) := do
  try
    return some (← IO.FS.readFile path)
  catch _ => return none

/-- The reading of the clock. -/
def wallClock : IO Instant := do
  let t ← Std.Time.Timestamp.now
  return Instant.ofNanos t.toNanosecondsSinceUnixEpoch.val

/-- The part of the world that an invocation needs. -/
def environmentFor (i : Invocation) : IO Environment := do
  let files ← i.paths.mapM fun path => do return (path, ← readFile? path)
  let now ← wallClock
  let bytes ← IO.getRandomBytes 16
  return {
    files := fun path => (files.lookup path).join
    clock := fun _ => now
    zones := .exchanges
    freshId := Identifier.ofBytes (bytes.toList.map UInt8.toNat) }

/-- Prints the answer, or the reason why there is none, and gives the exit code. -/
def finish : Except Failure Output → IO UInt32
  | .ok output => do
    IO.print output.render
    return 0
  | .error failure => do
    IO.eprintln ("Error: " ++ failure.message)
    return UInt32.ofNat failure.exitCode

end EntryGate

open EntryGate in
/-- Runs a command line. -/
def main (args : List String) : IO UInt32 := do
  match Invocation.parse args with
  | .ok i => do
    let env ← environmentFor i
    finish (i.run env)
  | .error (.help topic) => finish (.ok (.text (Command.help topic)))
  | .error .usage => finish (.error .usage)
