import ChatRelay.CommandLine.Run
import ChatRelay.Conversation.ResponseId

/-!
# The program

The outer layer of the command line: it fetches what an invocation names, runs it, and writes what
comes of it.
-/
namespace ChatRelay.CommandLine

def usage : String := "Convert conversations between canonical and vendor LLM formats

Usage: chatrelay [OPTIONS] request [--provider NAME] [--history FILE] [--session ID] REQUEST
       chatrelay [OPTIONS] response [--provider NAME] [--session ID] REPLY

Options:
  -c, --config FILE    the configuration; built-in providers are used without one
      --log FILTER     the log filter, in place of the configured one
      --pretty         indent the output
  -p, --provider NAME  the provider; the configured default is used without one
      --history FILE   the items of the session so far, oldest first
      --session ID     the id of the session; it is cli without one
  -h, --help           print this text

A hyphen stands for standard input in place of REQUEST, REPLY or the file of the history."

/-- What the system's refusal to read a file comes from. -/
def fileFault : IO.Error → FileFault
  | .inappropriateType _ code _ => if code = 21 then .isDirectory else .underFile
  | .permissionDenied _ _ _ => .denied
  | .invalidArgument _ code _ => if code = 36 then .nameTooLong else .missing
  | _ => .missing

/-- The bytes of each path, or why they cannot be read. -/
def fetch (paths : List String) : IO (List (String × Except FileFault (List UInt8))) :=
  paths.mapM fun (path : String) => do
    match ← (IO.FS.readBinFile path).toBaseIO with
    | .ok bytes => return (path, .ok bytes.toList)
    | .error e => return (path, .error (fileFault e))

/-- The bytes of a stream up to its end. -/
partial def drain (stream : IO.FS.Stream) (read : ByteArray) : IO (List UInt8) := do
  let more ← stream.read 65536
  if more.isEmpty then return read.toList else drain stream (read ++ more)

def World.around (i : Invocation) : IO World := do
  let files ← fetch i.paths
  let standardInput ←
    if i.inputs.contains inputPath then drain (← IO.getStdin) ByteArray.empty else pure []
  let random ← IO.getRandomBytes 16
  return { file := fun path => (files.lookup path).getD (.error .missing), standardInput
           freshId := ResponseId.ofBytes random.toList }

/-- Writes what a run leaves, and tells how it ended. -/
def report (e : Ending) : IO UInt32 := do
  if let some filter := e.refusedFilter then
    IO.eprintln ("invalid log filter '" ++ filter ++ "', falling back to '"
      ++ Telemetry.standardFilter ++ "'")
  match e.outcome with
  | .printed output => do
    IO.print output
    return 0
  | .failed f => do
    IO.eprintln ("Error: " ++ f.message)
    return 1
  | .refused .help => do
    IO.println usage
    return 0
  | .refused .usage => do
    IO.eprintln usage
    return 2
  | .aborted => do
    IO.eprintln "the log filter would be cut inside a character"
    return 101

end ChatRelay.CommandLine

open ChatRelay.CommandLine in
def main (args : List String) : IO UInt32 := do
  let env : Environment :=
    { config := ← IO.getEnv "PARLEY_CONFIG"
      log := ← IO.getEnv "PARLEY_LOG"
      provider := ← IO.getEnv "PARLEY_PROVIDER" }
  match parse env args with
  | .error r => report ⟨.refused r, none⟩
  | .ok i => do report (runInvocation (← World.around i) i)
