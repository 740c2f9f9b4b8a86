/-!
# Command line arguments

The program converts one request or one reply. Three options may stand before or after the command;
the others belong to it. An option may be given once on each side, and what stands after the command
counts more than what stands before it, and both more than the environment.
-/
namespace ChatRelay.CommandLine

inductive Flag where
  | config | log | pretty | provider | history | session
  deriving DecidableEq, Repr

namespace Flag

def ofLong? : String → Option Flag
  | "config" => some .config
  | "log" => some .log
  | "pretty" => some .pretty
  | "provider" => some .provider
  | "history" => some .history
  | "session" => some .session
  | _ => none

def ofShort? : Char → Option Flag
  | 'c' => some .config
  | 'p' => some .provider
  | _ => none

def takesValue (f : Flag) : Bool := f ≠ .pretty

/-- A path may not be empty; other values may. -/
def allows (f : Flag) (value : String) : Bool :=
  match f with
  | .config => value ≠ ""
  | .history => value ≠ ""
  | _ => true

end Flag

inductive Command where
  | request | response
  deriving DecidableEq, Repr

namespace Command

def ofName? : String → Option Command
  | "request" => some .request
  | "response" => some .response
  | _ => none

/-- The options that may stand after a command, or before any. -/
def flags : Option Command → List Flag
  | none => [.config, .log, .pretty]
  | some .request => [.config, .log, .pretty, .provider, .history, .session]
  | some .response => [.config, .log, .pretty, .provider, .session]

end Command

inductive Refusal where
  /-- The arguments make no sense. -/
  | usage
  /-- They ask for help instead. -/
  | help
  deriving DecidableEq, Repr

/-- The options given on one side of the command, and the arguments that are no options. -/
structure Given where
  values : List (Flag × String)
  operands : List String
  deriving DecidableEq, Repr

namespace Given

def empty : Given := ⟨[], []⟩

def value? (g : Given) (f : Flag) : Option String :=
  (g.values.find? fun v => v.1 = f).map Prod.snd

/-- Adds an option, which may not be there already. -/
def add (g : Given) (f : Flag) (value : String) : Except Refusal Given :=
  if (g.value? f).isSome || !f.allows value then .error .usage
  else .ok { g with values := g.values ++ [(f, value)] }

/-- Adds an argument that is no option: the path of what is converted. It may not be empty, and
there is only one. -/
def addOperand (g : Given) (s : String) : Except Refusal Given :=
  if g.operands.isEmpty && s ≠ "" then .ok { g with operands := [s] } else .error .usage

end Given

/-- An argument by its form. -/
inductive Form where
  /-- Two hyphens: no options follow. -/
  | terminator
  /-- An option with its attached value, if it has one. -/
  | option (f : Option Flag) (value : Option String)
  | help
  | operand

/-- The option of a name, with the text after an equals sign as its value. -/
def longForm (cs : List Char) : Form :=
  let name := String.ofList (cs.takeWhile fun c => c ≠ '=')
  match cs.dropWhile fun c => c ≠ '=' with
  | [] => if name = "help" then .help else .option (Flag.ofLong? name) none
  | _ :: value => .option (Flag.ofLong? name) (some (String.ofList value))

/-- The option of a letter, with the text after it as its value. -/
def shortForm (c : Char) (rest : List Char) : Form :=
  if c = 'h' then .help
  else
    match rest with
    | [] => .option (Flag.ofShort? c) none
    | '=' :: value => .option (Flag.ofShort? c) (some (String.ofList value))
    | value => .option (Flag.ofShort? c) (some (String.ofList value))

def formOf (s : String) : Form :=
  match s.toList with
  | ['-', '-'] => .terminator
  | '-' :: '-' :: cs => longForm cs
  | '-' :: c :: rest => shortForm c rest
  | _ => .operand

/-- Reads the arguments on one side of the command; `waiting` is the option whose value comes next.
Before the command the first argument that is no option ends it; after the command there is no such
end. -/
def scan (command : Option Command) (g : Given) (waiting : Option Flag) :
    List String → Except Refusal (Given × List String)
  | [] => if waiting.isSome then .error .usage else .ok (g, [])
  | s :: rest =>
    match waiting, formOf s with
    | some f, .operand => do scan command (← g.add f s) none rest
    | some _, _ => .error .usage
    | none, .terminator => do return (← rest.foldlM Given.addOperand g, [])
    | none, .help => .error .help
    | none, .operand =>
      if command.isNone then .ok (g, s :: rest)
      else do scan command (← g.addOperand s) none rest
    | none, .option none _ => .error .usage
    | none, .option (some f) value =>
      if !(Command.flags command).contains f then .error .usage
      else
        match f.takesValue, value with
        | true, some v => do scan command (← g.add f v) none rest
        | true, none => scan command g (some f) rest
        | false, some _ => .error .usage
        | false, none => do scan command (← g.add f "") none rest

/-- Values that the environment gives to options. -/
structure Environment where
  config : Option String
  log : Option String
  provider : Option String
  deriving DecidableEq, Repr

structure Invocation where
  command : Command
  /-- The file of the request or the reply. -/
  input : String
  config : Option String
  log : Option String
  pretty : Bool
  provider : Option String
  history : Option String
  session : String
  deriving DecidableEq, Repr

/-- The invocation of the arguments before and after a command. The environment's path is looked at
unless the option stands on both sides. -/
def combine (env : Environment) (before after : Given) (command : Command) :
    Except Refusal Invocation :=
  match before.operands, after.operands with
  | [], [input] =>
    let bothSides := (before.value? .config).isSome && (after.value? .config).isSome
    if env.config = some "" && !bothSides then .error .usage
    else
      let either (f : Flag) : Option String := (after.value? f).or (before.value? f)
      .ok
        { command, input
          config := (either .config).or env.config
          log := (either .log).or env.log
          pretty := (either .pretty).isSome
          provider := (after.value? .provider).or env.provider
          history := after.value? .history
          session := (after.value? .session).getD "cli" }
  | _, _ => .error .usage

namespace Invocation

def inputs (i : Invocation) : List String := i.input :: i.history.toList

def paths (i : Invocation) : List String := i.config.toList ++ i.inputs

end Invocation

def isHelpTopic : List String → Bool
  | [] => true
  | [name] => name = "help" || (Command.ofName? name).isSome
  | _ => false

def parse (env : Environment) (args : List String) : Except Refusal Invocation := do
  let (before, rest) ← scan none .empty none args
  match rest with
  | [] => .error .usage
  | name :: rest =>
    match Command.ofName? name with
    | some command =>
      let (after, _) ← scan (some command) .empty none rest
      combine env before after command
    | none => .error (if name = "help" && isHelpTopic rest then .help else .usage)

end ChatRelay.CommandLine
