import ChatRelay.Config.Basic
import ChatRelay.Text.Letter
import ChatRelay.Toml.Reader

/-!
# Configuration files

A configuration is read from TOML. A record is read from a table, in which every key must be known,
or from an array with the fields in their declared order; whatever does not fit makes the file as a
whole unreadable.
-/
namespace ChatRelay

/-- Why the text of a file cannot be had. -/
inductive FileFault where
  | missing
  | isDirectory
  /-- A part of the path that should be a directory is none. -/
  | underFile
  | denied
  | nameTooLong
  | notText
  deriving DecidableEq, Repr

def FileFault.message : FileFault → String
  | .missing => "No such file or directory (os error 2)"
  | .isDirectory => "Is a directory (os error 21)"
  | .underFile => "Not a directory (os error 20)"
  | .denied => "Permission denied (os error 13)"
  | .nameTooLong => "File name too long (os error 36)"
  | .notText => "stream did not contain valid UTF-8"

inductive ConfigFileFault where
  | unreadable (path : String) (fault : FileFault)
  /-- The file is no TOML, or holds something else than a configuration. -/
  | unparsable
  | invalid (fault : ConfigFault)
  deriving DecidableEq, Repr

namespace ConfigFileFault

def message : ConfigFileFault → String
  | .unreadable path fault => "failed to read config file " ++ path ++ ": " ++ fault.message
  | .unparsable => "failed to parse config"
  | .invalid fault => fault.message

end ConfigFileFault

namespace Config

open Toml (Value)

/-- A field that is read into a state `σ`, and whether the record needs it. -/
structure Field (σ : Type) where
  name : String
  required : Bool
  read : Value → σ → Option σ

/-- Every key of a table must be that of a field. -/
def readMembers {σ : Type} (fields : List (Field σ)) : σ → Toml.Members → Option σ
  | s, [] => some s
  | s, (key, v) :: rest => do
    let f ← fields.find? fun f => f.name = key
    readMembers fields (← f.read v s) rest

/-- The elements against the fields in their order; elements past the last field do not count. -/
def readElements {σ : Type} : σ → List (Field σ) → List Value → Option σ
  | s, [], _ => some s
  | s, f :: fields, [] => if f.required then none else readElements s fields []
  | s, f :: fields, v :: vs => (f.read v s).bind fun s => readElements s fields vs

/-- A record from a table or an array. -/
def readRecord {σ : Type} (fields : List (Field σ)) (start : σ) : Value → Option σ
  | .table _ ms =>
    if fields.any fun f => f.required && (Toml.Members.find? f.name ms).isNone then none
    else readMembers fields start ms
  | .array elems _ => readElements start fields elems
  | _ => none

def readText : Value → Option String
  | .text s => some s
  | _ => none

def readUInt32 : Value → Option UInt32
  | .integer (some n) => if 0 ≤ n ∧ n < 4294967296 then some (UInt32.ofNat n.toNat) else none
  | _ => none

/-- A name, or a table with this name as its only key and nothing under it. -/
def readName : Value → Option String
  | .text s => some s
  | .table _ [(key, .table _ [])] => some key
  | .table _ [(key, .array [] _)] => some key
  | _ => none

def readFormat (v : Value) : Option LogFormat :=
  match readName v with
  | some "text" => some .text
  | some "json" => some .json
  | _ => none

def providerFields : List (Field ProviderConfig) := [
  ⟨"type", true, fun v p => ((readName v).bind Vendor.ofName?).map fun x => { p with vendor := x }⟩,
  ⟨"model", false, fun v p => (readText v).map fun s => { p with model := some s }⟩,
  ⟨"max_tokens", false, fun v p => (readUInt32 v).map fun n => { p with maxTokens := some n }⟩]

def readProvider : Value → Option ProviderConfig :=
  readRecord providerFields ⟨.claude, none, none⟩

/-- The providers of a table, in its order. -/
def readProviders : Value → Option (Catalog ProviderConfig)
  | .table _ ms => do
    return Catalog.ofList (← ms.mapM fun m => do return (m.1, ← readProvider m.2))
  | _ => none

def telemetryFields : List (Field Telemetry) := [
  ⟨"log_filter", false, fun v t => (readText v).map fun s => { t with logFilter := some s }⟩,
  ⟨"format", false, fun v t => (readFormat v).map fun f => { t with format := f }⟩]

def readTelemetry : Value → Option Telemetry := readRecord telemetryFields ⟨none, .text⟩

def fields : List (Field Config) := [
  ⟨"default_provider", false, fun v c =>
    (readText v).map fun s => { c with chosenDefault := some s }⟩,
  ⟨"providers", false, fun v c => (readProviders v).map fun ps => { c with providers := ps }⟩,
  ⟨"telemetry", false, fun v c => (readTelemetry v).map fun t => { c with telemetry := some t }⟩]

def ofText? (s : String) : Option Config :=
  (Toml.read? s).bind fun ms => readMembers fields ⟨none, .empty, none⟩ ms

/-- The configuration of a file, given its bytes if it can be read, once it is checked. -/
def load (path : String) (bytes : Except FileFault (List UInt8)) :
    Except ConfigFileFault Config :=
  match bytes with
  | .error fault => .error (.unreadable path fault)
  | .ok bytes =>
    match Letter.text? (Letter.ofBytes bytes) with
    | none => .error (.unreadable path .notText)
    | some cs =>
      match ofText? (String.ofList cs) with
      | none => .error .unparsable
      | some c =>
        match c.fault? with
        | some fault => .error (.invalid fault)
        | none => .ok c

end Config
end ChatRelay
