import MatrixGateway.Text.Blank
import MatrixGateway.Text.Numeral

/-!
# Log levels

Verbosity is named by a word, an alias or a digit; whatever else is said
means `debug`. The libraries that speak HTTP never say more than `info`.
-/

set_option autoImplicit false

namespace MatrixGateway

inductive LogLevel where
  | off
  | error
  | warn
  | info
  | debug
  | trace
  deriving DecidableEq

namespace LogLevel

def name : LogLevel → String
  | .off => "off"
  | .error => "error"
  | .warn => "warn"
  | .info => "info"
  | .debug => "debug"
  | .trace => "trace"

def rank : LogLevel → Nat
  | .off => 0
  | .error => 1
  | .warn => 2
  | .info => 3
  | .debug => 4
  | .trace => 5

def ofRank? : Nat → Option LogLevel
  | 0 => some .off
  | 1 => some .error
  | 2 => some .warn
  | 3 => some .info
  | 4 => some .debug
  | 5 => some .trace
  | _ => none

def ofWord? (s : String) : Option LogLevel :=
  match s with
  | "off" => some .off
  | "error" | "fatal" | "panic" => some .error
  | "warn" | "warning" => some .warn
  | "info" => some .info
  | "debug" => some .debug
  | "trace" => some .trace
  | _ => none

/-- The level that a setting asks for; blanks around it and its case do not matter. -/
def ofSetting (setting : Option String) : LogLevel :=
  let s := (Text.trim ((setting.getD "").toList)).map Char.toLower
  match Numeral.read? (UInt64.size - 1) s with
  | some n => (ofRank? n).getD .debug
  | none => (ofWord? (String.ofList s)).getD .debug

def least (a b : LogLevel) : LogLevel := if a.rank ≤ b.rank then a else b

def internals : List String := ["hyper", "hyper_util", "reqwest"]

def directives (level : LogLevel) : List String :=
  level.name :: internals.map fun source => source ++ "=" ++ (level.least .info).name

def shows (level : LogLevel) (source : String) (m : LogLevel) : Bool :=
  let limit := if internals.contains source then level.least .info else level
  m.rank ≤ limit.rank

end LogLevel

end MatrixGateway
