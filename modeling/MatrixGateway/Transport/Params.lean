import MatrixGateway.Transport.Backoff

/-!
# Transport parameters

What the transport engine may be told about reliability: how long to wait
for an acknowledgement, how often to send again, how long to pause, and
what it reports about observation and keep-alive. The worst case is the
time one submission takes when nothing is ever acknowledged.
-/

set_option autoImplicit false

namespace MatrixGateway.Transport

structure Params where
  insecureSkipVerify : Bool := false
  flightIntervalSecs : UInt64 := 2
  heartbeatTimeoutSecs : UInt64 := 5
  keepAliveMaxRetries : UInt32 := 7
  keepAliveTimeoutSecs : UInt64 := 5
  transmissionNStart : UInt32 := 1
  transmissionAckTimeoutSecs : UInt64 := 2
  transmissionMaxRetransmits : UInt32 := 4
  observeEnabled : Bool := false
  observeBufferSize : UInt64 := 1000
  observeNoResponseTimeoutSecs : UInt64 := 10
  deriving DecidableEq

namespace Params

def ackTimeout (p : Params) : Span := Span.ofSecs (max p.transmissionAckTimeoutSecs 1)

/-- One attempt and the retransmissions, counted in 32 bits. -/
def maxAttempts (p : Params) : Nat := min (p.transmissionMaxRetransmits.toNat + 1) (UInt32.size - 1)

def flightInterval (p : Params) : Span := Span.ofSecs p.flightIntervalSecs

def worstCase (p : Params) : Span :=
  (p.ackTimeout.scale p.maxAttempts).add
    (Backoff.ceilings p.flightInterval Backoff.cap 1 p.transmissionMaxRetransmits.toNat)

def fieldTexts (p : Params) : List (String × String) :=
  [("insecure_skip_verify", toString p.insecureSkipVerify),
    ("flight_interval_secs", toString p.flightIntervalSecs),
    ("heartbeat_timeout_secs", toString p.heartbeatTimeoutSecs),
    ("keep_alive_max_retries", toString p.keepAliveMaxRetries),
    ("keep_alive_timeout_secs", toString p.keepAliveTimeoutSecs),
    ("transmission_nstart", toString p.transmissionNStart),
    ("transmission_ack_timeout_secs", toString p.transmissionAckTimeoutSecs),
    ("transmission_max_retransmits", toString p.transmissionMaxRetransmits),
    ("observe_enabled", toString p.observeEnabled),
    ("observe_buffer_size", toString p.observeBufferSize),
    ("observe_no_response_timeout_secs", toString p.observeNoResponseTimeoutSecs)]

def text (p : Params) : String :=
  "TransportParams \x7b " ++ ", ".intercalate (p.fieldTexts.map fun (k, v) => k ++ ": " ++ v) ++
    " \x7d"

end Params

end MatrixGateway.Transport
