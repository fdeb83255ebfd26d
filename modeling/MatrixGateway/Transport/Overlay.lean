import MatrixGateway.Text.Numeral
import MatrixGateway.Text.Quoted
import MatrixGateway.Transport.Params

/-!
# Environment overlay

Eleven variables may override the transport parameters. All that are
present are read before anything is replaced, so one bad numeral leaves the
engine as it was, and any number of good ones replace its record once.
-/

set_option autoImplicit false

namespace MatrixGateway.Transport

inductive Override where
  | insecureSkipVerify
  | flightIntervalSecs
  | heartbeatTimeoutSecs
  | keepAliveMaxRetries
  | keepAliveTimeoutSecs
  | transmissionNStart
  | transmissionAckTimeoutSecs
  | transmissionMaxRetransmits
  | observeEnabled
  | observeBufferSize
  | observeNoResponseTimeoutSecs
  deriving DecidableEq

structure OverlayError where
  name : String
  value : String
  cause : NumeralError
  deriving DecidableEq

def OverlayError.message (e : OverlayError) : String :=
  e.name ++ "=" ++ Text.quote e.value ++ " is not a non-negative base-10 integer: " ++
    e.cause.message

abbrev Environment := String → Option String

namespace Override

def all : List Override :=
  [.insecureSkipVerify, .flightIntervalSecs, .heartbeatTimeoutSecs, .keepAliveMaxRetries,
    .keepAliveTimeoutSecs, .transmissionNStart, .transmissionAckTimeoutSecs,
    .transmissionMaxRetransmits, .observeEnabled, .observeBufferSize,
    .observeNoResponseTimeoutSecs]

def name : Override → String
  | .insecureSkipVerify => "LB_INSECURE_SKIP_VERIFY"
  | .flightIntervalSecs => "LB_FLIGHT_INTERVAL_SECS"
  | .heartbeatTimeoutSecs => "LB_HEARTBEAT_TIMEOUT_SECS"
  | .keepAliveMaxRetries => "LB_KEEP_ALIVE_MAX_RETRIES"
  | .keepAliveTimeoutSecs => "LB_KEEP_ALIVE_TIMEOUT_SECS"
  | .transmissionNStart => "LB_TRANSMISSION_NSTART"
  | .transmissionAckTimeoutSecs => "LB_TRANSMISSION_ACK_TIMEOUT_SECS"
  | .transmissionMaxRetransmits => "LB_TRANSMISSION_MAX_RETRANSMITS"
  | .observeEnabled => "LB_OBSERVE_ENABLED"
  | .observeBufferSize => "LB_OBSERVE_BUFFER_SIZE"
  | .observeNoResponseTimeoutSecs => "LB_OBSERVE_NO_RESPONSE_TIMEOUT_SECS"

def flag (value : String) : Bool := value = "1"

def word32 (value : String) : Except NumeralError UInt32 :=
  (Numeral.read (UInt32.size - 1) value.toList).map Nat.toUInt32

def word64 (value : String) : Except NumeralError UInt64 :=
  (Numeral.read (UInt64.size - 1) value.toList).map Nat.toUInt64

def put (o : Override) (value : String) (p : Params) : Except NumeralError Params :=
  match o with
  | .insecureSkipVerify => .ok { p with insecureSkipVerify := flag value }
  | .flightIntervalSecs => (word64 value).map fun n => { p with flightIntervalSecs := n }
  | .heartbeatTimeoutSecs => (word64 value).map fun n => { p with heartbeatTimeoutSecs := n }
  | .keepAliveMaxRetries => (word32 value).map fun n => { p with keepAliveMaxRetries := n }
  | .keepAliveTimeoutSecs => (word64 value).map fun n => { p with keepAliveTimeoutSecs := n }
  | .transmissionNStart => (word32 value).map fun n => { p with transmissionNStart := n }
  | .transmissionAckTimeoutSecs =>
    (word64 value).map fun n => { p with transmissionAckTimeoutSecs := n }
  | .transmissionMaxRetransmits =>
    (word32 value).map fun n => { p with transmissionMaxRetransmits := n }
  | .observeEnabled => .ok { p with observeEnabled := flag value }
  | .observeBufferSize => (word64 value).map fun n => { p with observeBufferSize := n }
  | .observeNoResponseTimeoutSecs =>
    (word64 value).map fun n => { p with observeNoResponseTimeoutSecs := n }

/-- The value of a variable that is present: set, and not to the empty text. -/
def present? (env : Environment) (o : Override) : Option String :=
  (env o.name).filter (· ≠ "")

def read (env : Environment) : List Override → Params → Except OverlayError Params
  | [], p => .ok p
  | o :: os, p =>
    match o.present? env with
    | none => read env os p
    | some value =>
      match o.put value p with
      | .ok p => read env os p
      | .error cause => .error ⟨o.name, value, cause⟩

end Override

/-- The overridden record, or none when no variable is present. -/
def Params.overlay (p : Params) (env : Environment) : Except OverlayError (Option Params) :=
  (Override.read env Override.all p).map fun q =>
    if Override.all.any fun o => (o.present? env).isSome then some q else none

structure Engine where
  active : Params
  replacements : Nat := 0
  deriving DecidableEq

namespace Engine

def replace (e : Engine) (p : Params) : Engine := ⟨p, e.replacements + 1⟩

def overlay (e : Engine) (env : Environment) : Engine × Except OverlayError Params :=
  match e.active.overlay env with
  | .error err => (e, .error err)
  | .ok none => (e, .ok e.active)
  | .ok (some p) => (e.replace p, .ok p)

end Engine

end MatrixGateway.Transport
