import MatrixGateway.Settings

/-!
# Command-line flags

Four flags, each with one value behind it or behind an equals sign, and
given at most once. A value that was announced but not taken yet is settled
when the next flag or the end is reached, so an unknown argument is
reported before a fault of the flag in front of it.
-/

set_option autoImplicit false

namespace MatrixGateway

inductive Flag where
  | httpBindAddr
  | homeserver
  | config
  | metricsAddr
  deriving DecidableEq

namespace Flag

def all : List Flag := [.httpBindAddr, .homeserver, .config, .metricsAddr]

def name : Flag → String
  | httpBindAddr => "http-bind-addr"
  | homeserver => "homeserver"
  | config => "config"
  | metricsAddr => "metrics-addr"

def slot : Flag → String
  | httpBindAddr => "HTTP_BIND_ADDR"
  | homeserver => "HOMESERVER"
  | config => "CONFIG"
  | metricsAddr => "METRICS_ADDR"

def usage : Flag → String
  | httpBindAddr => "The HTTP listening address for the server [default: :8008]"
  | homeserver =>
    "The homeserver to forward inbound requests to, without a scheme, e.g. localhost:8008"
  | config => "Optional TOML file with gateway settings"
  | metricsAddr => "Bind address of the Prometheus metrics exporter"

def form (f : Flag) : String := "--" ++ f.name ++ " <" ++ f.slot ++ ">"

end Flag

structure Flags where
  httpBindAddr : Option String := none
  homeserver : Option String := none
  config : Option String := none
  metricsAddr : Option String := none
  deriving DecidableEq

inductive FlagError where
  | helpRequested
  | unexpected (argument : String)
  | missingValue (flag : Flag)
  | repeated (flag : Flag)
  | unneededValue (value : String)
  deriving DecidableEq

namespace Flags

def helpText : String :=
  "Bridges Matrix client traffic onto a low-bandwidth transport\n\n" ++
    "Usage: lb-gateway [OPTIONS]\n\nOptions:\n" ++
    String.join (Flag.all.map fun f => "      " ++ f.form ++ "\n          " ++ f.usage ++ "\n") ++
    "  -h, --help\n          Print help\n"

end Flags

/-- The whole text for a request for help, otherwise the first line. -/
def FlagError.message : FlagError → String
  | .helpRequested => Flags.helpText
  | .unexpected argument => "error: unexpected argument '" ++ argument ++ "' found"
  | .missingValue flag =>
    "error: a value is required for '" ++ flag.form ++ "' but none was supplied"
  | .repeated flag => "error: the argument '" ++ flag.form ++ "' cannot be used multiple times"
  | .unneededValue value =>
    "error: unexpected value '" ++ value ++ "' for '--help' found; no more were expected"

namespace Flags

def get? (f : Flags) : Flag → Option String
  | .httpBindAddr => f.httpBindAddr
  | .homeserver => f.homeserver
  | .config => f.config
  | .metricsAddr => f.metricsAddr

def set (f : Flags) (value : String) : Flag → Flags
  | .httpBindAddr => { f with httpBindAddr := some value }
  | .homeserver => { f with homeserver := some value }
  | .config => { f with config := some value }
  | .metricsAddr => { f with metricsAddr := some value }

/-- A file name is never empty. -/
def store (f : Flags) (flag : Flag) (value : String) : Except FlagError Flags :=
  if (f.get? flag).isSome then .error (.repeated flag)
  else if flag = .config ∧ value = "" then .error (.missingValue flag)
  else .ok (f.set value flag)

abbrev Pending := Option (Flag × Option String)

def settle (f : Flags) : Pending → Except FlagError Flags
  | none => .ok f
  | some (flag, none) => .error (.missingValue flag)
  | some (flag, some value) => f.store flag value

inductive Argument where
  | separator
  | long (name : String) (value : Option String)
  | short (letter : Char)
  | plain (value : String)
  deriving DecidableEq

def Argument.ofString (s : String) : Argument :=
  match s.toList with
  | ['-', '-'] => .separator
  | '-' :: '-' :: rest =>
    match Text.cut? ['='] rest with
    | some (name, value) => .long (String.ofList name) (some (String.ofList value))
    | none => .long (String.ofList rest) none
  | '-' :: c :: _ => .short c
  | _ => .plain s

def read (f : Flags) (pending : Pending) : List String → Except FlagError Flags
  | [] => f.settle pending
  | a :: rest =>
    match Argument.ofString a with
    | .separator =>
      match rest with
      | [] => f.settle pending
      | b :: _ => .error (.unexpected b)
    | .long "help" none | .short 'h' => do
      let _ ← f.settle pending
      .error .helpRequested
    | .long "help" (some value) => .error (.unneededValue value)
    | .long name value =>
      match Flag.all.find? (·.name = name), value with
      | none, _ => .error (.unexpected ("--" ++ name))
      | some flag, none => do read (← f.settle pending) (some (flag, none)) rest
      | some flag, some value => do read (← (← f.settle pending).store flag value) none rest
    | .short c => .error (.unexpected (String.ofList ['-', c]))
    | .plain value =>
      match pending with
      | some (flag, none) => read f (some (flag, some value)) rest
      | _ => .error (.unexpected value)

def parse (arguments : List String) : Except FlagError Flags := read {} none arguments

def merge (f : Flags) (s : Settings) : Settings :=
  { s with
    homeserver := f.homeserver.getD s.homeserver
    listener := { s.listener with bindAddress := f.httpBindAddr.getD s.listener.bindAddress }
    observability := { metricsAddress := f.metricsAddr.or s.observability.metricsAddress } }

end Flags

end MatrixGateway
