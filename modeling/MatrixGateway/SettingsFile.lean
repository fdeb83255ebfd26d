import MatrixGateway.Settings
import MatrixGateway.Text.Quoted
import MatrixGateway.Toml.Document

/-!
# Settings in a file

The keys of a document that name settings replace their defaults; all other
keys are passed over. Tables may be given as arrays of their fields in
order. The first value of a wrong type is reported, with its place.
-/

set_option autoImplicit false

namespace MatrixGateway.SettingsFile

open Toml

structure Mismatch where
  extent : Extent
  found : String
  expected : String
  /-- Whether the type is right and only the value is not. -/
  outOfRange : Bool := false
  deriving DecidableEq

def Mismatch.message (m : Mismatch) : String :=
  (if m.outOfRange then "invalid value: " else "invalid type: ") ++ m.found ++ ", expected " ++
    m.expected

inductive Fault where
  | syntaxError
  | mismatch (m : Mismatch)
  deriving DecidableEq

def describe : Value → String
  | .text _ s => "string " ++ Text.quote s
  | .integer _ n => "integer `" ++ toString n ++ "`"
  | .real _ x => "floating point `" ++ x.text ++ "`"
  | .boolean _ b => "boolean `" ++ toString b ++ "`"
  | .array .. | .tables _ => "sequence"
  | .moment _ | .table .. => "map"

structure Placed where
  extent : Extent
  value : Value

def Placed.ofField (field : Key × Value) : Placed :=
  ⟨(field.2.extent?).getD field.1.extent, field.2⟩

def mismatch (p : Placed) (expected : String) : Mismatch :=
  ⟨p.extent, describe p.value, expected, false⟩

def readText (p : Placed) : Except Mismatch String :=
  match p.value with
  | .text _ s => .ok s
  | _ => .error (mismatch p "a string")

def readWord (kind : String) (p : Placed) : Except Mismatch UInt64 :=
  match p.value with
  | .integer _ n =>
    if 0 ≤ n then .ok n.toNat.toUInt64
    else .error { mismatch p kind with outOfRange := true }
  | _ => .error (mismatch p kind)

structure Field (α : Type) where
  name : String
  put : Placed → α → Except Mismatch α

def readFields {α : Type} (known : List (Field α)) : Value.Fields → α → Except Mismatch α
  | [], a => .ok a
  | field :: rest, a =>
    match known.find? (·.name = field.1.name) with
    | none => readFields known rest a
    | some f => do readFields known rest (← f.put (.ofField field) a)

def readItems {α : Type} (place : Extent) : List (Field α) → List Value → α → Except Mismatch α
  | f :: fs, v :: vs, a => do readItems place fs vs (← f.put ⟨v.extent?.getD place, v⟩ a)
  | _, _, a => .ok a

/-- A table, or an array in its place. A moment has no fields. -/
def readRecord {α : Type} (kind : String) (known : List (Field α)) (a : α) (p : Placed) :
    Except Mismatch α :=
  match p.value with
  | .table _ _ fields => readFields known fields a
  | .array _ items | .tables items => readItems p.extent known items a
  | .moment _ => .ok a
  | _ => .error (mismatch p ("struct " ++ kind))

def listenerFields : List (Field Settings.Listener) :=
  [⟨"bind_address", fun p l => (readText p).map fun s => { l with bindAddress := s }⟩,
    ⟨"max_connections", fun p l =>
      (readWord "usize" p).map fun n => { l with maxConnections := n }⟩]

def timeoutFields : List (Field Settings.Timeouts) :=
  [⟨"read_secs", fun p t => (readWord "u64" p).map fun n => { t with readSecs := n }⟩,
    ⟨"write_secs", fun p t => (readWord "u64" p).map fun n => { t with writeSecs := n }⟩,
    ⟨"idle_secs", fun p t => (readWord "u64" p).map fun n => { t with idleSecs := n }⟩,
    ⟨"read_header_secs", fun p t => (readWord "u64" p).map fun n => { t with readHeaderSecs := n }⟩]

def bridgeFields : List (Field Settings.Bridge) :=
  [⟨"max_body_bytes", fun p b => (readWord "usize" p).map fun n => { b with maxBodyBytes := n }⟩]

def observabilityFields : List (Field Settings.Observability) :=
  [⟨"metrics_address", fun p o => (readText p).map fun s => { o with metricsAddress := some s }⟩]

def settingsFields : List (Field Settings) :=
  [⟨"homeserver", fun p s => (readText p).map fun a => { s with homeserver := a }⟩,
    ⟨"listener", fun p s =>
      (readRecord "ListenerConfig" listenerFields {} p).map fun l => { s with listener := l }⟩,
    ⟨"timeouts", fun p s =>
      (readRecord "TimeoutConfig" timeoutFields {} p).map fun t => { s with timeouts := t }⟩,
    ⟨"bridge", fun p s =>
      (readRecord "BridgeConfig" bridgeFields {} p).map fun b => { s with bridge := b }⟩,
    ⟨"observability", fun p s =>
      (readRecord "ObservabilityConfig" observabilityFields {} p).map fun o =>
        { s with observability := o }⟩]

def ofDocument (d : Document) : Except Mismatch Settings := readFields settingsFields d.fields {}

def parse (text : List Char) : Except Fault Settings :=
  match Document.parse text with
  | none => .error .syntaxError
  | some d =>
    match ofDocument d with
    | .ok s => .ok s
    | .error m => .error (.mismatch m)

end MatrixGateway.SettingsFile
