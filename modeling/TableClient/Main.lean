import Std.Time
import TableClient.Command.Run

/-!
# The Program

The command line on the real standard streams.

The variables, the clock and the standard input are read first, the input
only where the arguments ask for it, and the run itself is `Command.run`.
Nothing here reaches the network, so every request that could be sent is
reported as one that found no service.
-/

namespace TableClient

namespace Command

/-- The handler of a program without a network. -/
def offline : Handler :=
  Transport.overWeb fun address _ => .error (.unreachable address.text)

/-- All bytes of a stream. -/
partial def readAll (stream : IO.FS.Stream) (bytes : ByteArray) : IO ByteArray := do
  let chunk ← stream.read 65536
  if chunk.isEmpty then return bytes else readAll stream (bytes ++ chunk)

/-- The standard input, where it is asked for. -/
def readInput (arguments : List String) : IO Input := do
  let stream ← IO.getStdin
  if !readsInput arguments then return .terminal
  else if ← stream.isTty then return .terminal
  else return .bytes (← readAll stream .empty).toList

/-- The variables that are set, and their values. -/
def readVariables : IO (List (String × String)) :=
  variableNames.filterMapM fun name => do
    return (← IO.getEnv name).map fun value => (name, value)

/-- The present time in the form of the log. -/
def readTime : IO String := do
  let now ← Std.Time.Timestamp.now
  return (Std.Time.DateTime.ofTimestampWithZone now .UTC).format "uuuu-MM-dd'T'HH:mm:ss.SSSSSS'Z'"

end Command

end TableClient

open TableClient.Command in
/-- Runs the program. -/
def main (arguments : List String) : IO UInt32 := do
  let values ← readVariables
  let surroundings : Surroundings :=
    { lookup := fun name => values.lookup name
      input := ← readInput arguments
      time := ← readTime
      handler := offline }
  let exit := run surroundings arguments
  (← IO.getStderr).putStr exit.errors
  (← IO.getStdout).putStr exit.output
  return exit.code.toUInt32
