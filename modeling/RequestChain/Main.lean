import RequestChain.CommandLine.Environment
import RequestChain.CommandLine.Program
import Std.Time.DateTime.Timestamp

/-! # The program at the command line

What the process is given is read, the outcome is worked out, and the outcome is printed. Nothing
is sent over a network from here: a request that would be sent fails.
-/

open RequestChain CommandLine

/-- The octets of a file that can be read. -/
def readOctets? (path : String) : IO (Option (List UInt8)) := do
  try return some (← IO.FS.readBinFile path).toList
  catch _ => return none

/-- The failure of every request that is ready to be sent. -/
def refuseToSend (outgoing : Http.Outgoing) : Action Unit Http.Reply :=
  Effect.fail ⟨[Http.failedRequest outgoing.method outgoing.url.text, "no network to send it over"]⟩

/-- The world of the process. -/
def readWorld : IO (World Unit) := do
  let environment := parseEnvironment ((← readOctets? "/proc/self/environ").getD [])
  let nanoseconds := (← Std.Time.Timestamp.now).toNanosecondsSinceUnixEpoch.val.toNat
  return {
    host := ()
    environment
    time := ⟨nanoseconds / 1000000000, nanoseconds % 1000000000⟩ }

/-- The files that a configuration can be taken from. -/
def readFiles (paths : List String) : IO Files := do
  let contents ← paths.mapM fun path => do return (path, ← readOctets? path)
  return {
    isFile := fun path => ((contents.lookup path).bind id).isSome
    octets? := fun path => (contents.lookup path).bind id }

def main (words : List String) : IO UInt32 := do
  let world ← readWorld
  let explicit := (read words).toOption.bind (·.config)
  let files ← readFiles (candidatePaths world.environment explicit)
  let outcome := program (Http.transport refuseToSend) files words world
  IO.print outcome.output
  IO.eprint outcome.errors
  return outcome.status.code.toUInt32
