import MatrixGateway.Transport.Outcome
import MatrixGateway.Transport.Params

/-!
# Delivery with retries

A submission is attempted until a whole response arrives, a failure says
that it must not be sent again, or the attempts run out. The peer is a
function from the number of an attempt to what comes of it, and so are the
random draws; one delivery is then a value: its outcome, how many attempts
it made and how long it paused between them.
-/

set_option autoImplicit false

namespace MatrixGateway.Transport

inductive AttemptFailure where
  /-- No connection was made, perhaps because time ran out on it. -/
  | connect (timedOut : Bool)
  | timeout
  | other
  deriving DecidableEq

namespace AttemptFailure

/-- A request that never left may always be sent again, any other one only
when repeating it has no further effect. -/
def retryable (m : Http.Method) : AttemptFailure → Bool
  | connect _ => true
  | timeout | other => m.isIdempotent

def conclude (attempts : Nat) (reason : String) : AttemptFailure → Failure
  | timeout | connect true => .timeout attempts
  | connect false => .unreachable reason
  | other => .exhausted attempts reason

end AttemptFailure

structure Attempt where
  /-- Nanoseconds until the result was known. -/
  took : Nat
  result : Except (AttemptFailure × String) Response

structure Delivery where
  outcome : Outcome
  attempts : List Attempt
  pauses : List Span

namespace Delivery

def elapsed (d : Delivery) : Nat :=
  d.attempts.foldr (fun a n => a.took + n) 0 + d.pauses.foldr (fun s n => s.nanos + n) 0

def run (p : Params) (m : Http.Method) (peer : Nat → Attempt) (draw : Nat → Nat)
    (k : Nat) : (retries : Nat) → Delivery
  | 0 =>
    match (peer k).result with
    | .ok r => ⟨.ok r, [peer k], []⟩
    | .error (f, reason) => ⟨.error (f.conclude k reason), [peer k], []⟩
  | retries + 1 =>
    match (peer k).result with
    | .ok r => ⟨.ok r, [peer k], []⟩
    | .error (f, reason) =>
      if f.retryable m then
        let rest := run p m peer draw (k + 1) retries
        ⟨rest.outcome, peer k :: rest.attempts,
          Backoff.delay k p.flightInterval Backoff.cap (draw k) :: rest.pauses⟩
      else ⟨.error (f.conclude k reason), [peer k], []⟩

end Delivery

def Params.deliver (p : Params) (m : Http.Method) (peer : Nat → Attempt) (draw : Nat → Nat) :
    Delivery :=
  Delivery.run p m peer draw 1 (p.maxAttempts - 1)

end MatrixGateway.Transport
