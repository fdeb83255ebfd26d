import MatrixGateway.Homeserver
import MatrixGateway.Reaction
import MatrixGateway.Refusal

/-!
# The transport bridge

A bridged request is read to its end, within a time and a size, and then
submitted once. The outcome is answered with the status and body that the
transport delivered, as JSON; whatever fails is refused.
-/

set_option autoImplicit false

namespace MatrixGateway

structure Bridge where
  homeserver : Homeserver
  /-- Nanoseconds allowed for reading a body. -/
  readTimeout : Nat
  maxBody : Nat

namespace Bridge

def json : Bytes := Bytes.ofString "application/json"

def jsonAnswer (status : Nat) (body : Bytes) : Http.Answer :=
  { status, headers := Http.Headers.insert {} .contentType json, body := .whole body }

def refuse (r : Refusal) : Http.Answer := jsonAnswer r.status (Bytes.ofString r.envelope)

/-- The body if it is all there in time, and when that is known. A body that
settles at the very end of the time is in time. -/
def readBody (b : Bridge) (body : Http.Body) : Nat × Option Bytes :=
  let (settled, bytes) := body.read (some b.maxBody)
  if settled ≤ b.readTimeout then (settled, bytes) else (b.readTimeout, none)

def submission (b : Bridge) (r : Http.Request) (body : Bytes) : Transport.Submission :=
  { method := r.method, url := String.ofList (b.homeserver.target r.uri), token := r.headers.token,
    body }

/-- The answer to an outcome, with the kind of failure if there was one. A
status must be of three digits and not below 100. -/
def conclude : Transport.Outcome → Http.Answer × Option String
  | .error f => (refuse .forward, some f.kind)
  | .ok r =>
    if 100 ≤ r.status ∧ r.status ≤ 999 then (jsonAnswer r.status r.body, none)
    else (refuse .forward, some "invalid_status")

def handle (b : Bridge) (peers : Peers) (r : Http.Request) : Reaction :=
  match b.readBody r.body with
  | (time, none) => { time, answer := refuse .bodyRead }
  | (time, some body) =>
    let s := b.submission r body
    let (delay, outcome) := peers.transport s
    let (answer, undelivered) := conclude outcome
    { time := time + delay, answer, submitted := some (time, s), undelivered }

end Bridge

end MatrixGateway
