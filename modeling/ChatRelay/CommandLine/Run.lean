import ChatRelay.CommandLine.Arguments
import ChatRelay.Config.File
import ChatRelay.LogFilter
import ChatRelay.Registry

/-!
# Running the command line

What the program prints, and how it ends, as a function of its arguments, the files it may read and
its standard input. The first thing that goes wrong is the one reported.
-/
namespace ChatRelay.CommandLine

structure World where
  /-- The bytes of a file, if it can be read. -/
  file : String → Except FileFault (List UInt8)
  standardInput : List UInt8
  /-- The id of a response whose vendor gives none. -/
  freshId : String

inductive Failure where
  | config (fault : ConfigFileFault)
  | noProvider
  | relay (error : RelayError)
  | unreadable (path : String)
  | badRequest (path : String)
  | badHistory (path : String)
  deriving DecidableEq, Repr

namespace Failure

def message : Failure → String
  | .config fault => fault.message
  | .noProvider =>
    "no provider given; pass --provider or set default_provider in the configuration"
  | .relay error => error.message
  | .unreadable path => "failed to read " ++ path
  | .badRequest path => "invalid canonical request in " ++ path
  | .badHistory path => "invalid session history in " ++ path

end Failure

inductive Outcome where
  | refused (r : Refusal)
  | failed (f : Failure)
  /-- The log filter cannot even be read to its end, and nothing is done. -/
  | aborted
  | printed (output : String)
  deriving DecidableEq, Repr

/-- The end of the program, and the log filter if it could not be used. -/
structure Ending where
  outcome : Outcome
  refusedFilter : Option String
  deriving DecidableEq, Repr

/-- The path that stands for standard input. -/
def inputPath : String := "-"

/-- The letters of a file or of standard input. -/
def read (w : World) (path : String) : Except Failure (List Letter) :=
  if path = inputPath then .ok (Letter.ofBytes w.standardInput)
  else
    match w.file path with
    | .ok bytes => .ok (Letter.ofBytes bytes)
    | .error _ => .error (.unreadable path)

/-- The world after a path has been read: standard input can be read once. -/
def World.afterReading (w : World) (path : String) : World :=
  if path = inputPath then { w with standardInput := [] } else w

/-- The configuration that an invocation names, if it names one. -/
def config? (w : World) (i : Invocation) : Except Failure (Option Config) :=
  match i.config with
  | none => .ok none
  | some path => ((Config.load path (w.file path)).mapError .config).map some

def converter (c : Option Config) (i : Invocation) : Except Failure Converter :=
  match i.provider.or (c.bind Config.defaultProvider) with
  | none => .error .noProvider
  | some provider =>
    let registry := (c.map Registry.ofConfig).getD .standard
    (registry.get provider).mapError .relay

def convertRequest (w : World) (i : Invocation) (c : Converter) : Except Failure Json := do
  let text ← read w i.input
  let request ← (Json.Reader.ofLetters Request.reader text).mapError fun _ => .badRequest i.input
  let history ←
    match i.history with
    | none => .ok []
    | some path => do
      let text ← read (w.afterReading i.input) path
      (Json.Reader.ofLetters (Json.Reader.list Item.reader) text).mapError fun _ =>
        .badHistory path
  (c.payload history request).mapError .relay

def convertResponse (w : World) (i : Invocation) (c : Converter) : Except Failure Json := do
  let reply ← read w i.input
  let response ← (c.response w.freshId i.session reply).mapError .relay
  return response.toJson

def render (pretty : Bool) (v : Json) : String :=
  (if pretty then v.indented else v.compact) ++ "\n"

def convert (w : World) (i : Invocation) (c : Option Config) : Except Failure String := do
  let converter ← converter c i
  let v ←
    match i.command with
    | .request => convertRequest w i converter
    | .response => convertResponse w i converter
  return render i.pretty v

def runInvocation (w : World) (i : Invocation) : Ending :=
  match config? w i with
  | .error f => ⟨.failed f, none⟩
  | .ok c =>
    let filter := Telemetry.filter (c.bind Config.telemetry) i.log
    let outcome : Outcome :=
      match convert w i c with
      | .ok output => .printed output
      | .error f => .failed f
    match LogFilter.check filter with
    | .ok () => ⟨outcome, none⟩
    | .error .malformed => ⟨outcome, some filter⟩
    | .error .splitChar => ⟨.aborted, none⟩

def run (w : World) (env : Environment) (args : List String) : Ending :=
  match parse env args with
  | .error r => ⟨.refused r, none⟩
  | .ok i => runInvocation w i

end ChatRelay.CommandLine
