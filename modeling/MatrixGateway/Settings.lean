import MatrixGateway.Homeserver
import MatrixGateway.Net.BindAddress

/-!
# Settings

Everything the gateway is told about itself, each with its default. A
faulty record is refused with all its faults in a fixed order, before
anything is opened.
-/

set_option autoImplicit false

namespace MatrixGateway

namespace Settings

structure Listener where
  bindAddress : String := ":8008"
  maxConnections : UInt64 := 10000
  deriving DecidableEq

structure Timeouts where
  readSecs : UInt64 := 300
  writeSecs : UInt64 := 300
  idleSecs : UInt64 := 300
  readHeaderSecs : UInt64 := 300
  deriving DecidableEq

structure Bridge where
  maxBodyBytes : UInt64 := 33554432
  deriving DecidableEq

structure Observability where
  metricsAddress : Option String := none
  deriving DecidableEq

end Settings

structure Settings where
  homeserver : String := ""
  listener : Settings.Listener := {}
  timeouts : Settings.Timeouts := {}
  bridge : Settings.Bridge := {}
  observability : Settings.Observability := {}
  deriving DecidableEq

namespace Settings

inductive Fault where
  | emptyBindAddress
  | invalidBindAddress (address : String)
  | homeserver (cause : HomeserverError)
  | zeroMaxConnections
  | zeroTimeout (name : String)
  deriving DecidableEq

def Fault.message : Fault → String
  | .emptyBindAddress => "--http-bind-addr must be set"
  | .invalidBindAddress address =>
    "`" ++ address ++ "` is not a valid bind address (expected host:port or :port)"
  | .homeserver cause => cause.message
  | .zeroMaxConnections => "listener.max_connections must be greater than zero"
  | .zeroTimeout name => "timeouts." ++ name ++ " must be greater than zero"

def bindFaults (address : String) : List Fault :=
  if address = "" then [.emptyBindAddress]
  else if BindAddress.accepts address then []
  else [.invalidBindAddress address]

def homeserverFaults (address : String) : List Fault :=
  match Homeserver.parse address with
  | .ok _ => []
  | .error cause => [.homeserver cause]

/-- The waits that must not be zero, each under the name it has in a file. -/
def Timeouts.named (t : Timeouts) : List (String × UInt64) :=
  [("read_secs", t.readSecs), ("write_secs", t.writeSecs), ("idle_secs", t.idleSecs),
    ("read_header_secs", t.readHeaderSecs)]

def Timeouts.faults (t : Timeouts) : List Fault :=
  (t.named.filter (·.2 = 0)).map fun (name, _) => .zeroTimeout name

def faults (s : Settings) : List Fault :=
  bindFaults s.listener.bindAddress ++ homeserverFaults s.homeserver ++
    (if s.listener.maxConnections = 0 then [.zeroMaxConnections] else []) ++ s.timeouts.faults

end Settings

end MatrixGateway
