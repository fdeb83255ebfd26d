import MatrixGateway.Http.Errand
import MatrixGateway.Http.Exchange
import MatrixGateway.Http.Wire
import MatrixGateway.Transport.Outcome

/-!
# Reactions

What a handler does with a request: when it is done, in nanoseconds, what it
answers, and what it caused on the way.
-/

set_option autoImplicit false

namespace MatrixGateway

structure Reaction where
  time : Nat
  answer : Http.Answer
  submitted : Option (Nat × Transport.Submission) := none
  sent : Option Errand := none
  undelivered : Option String := none
  deriving DecidableEq

structure Peers where
  /-- The outcome of a submission, and the nanoseconds until then. -/
  transport : Transport.Submission → Nat × Transport.Outcome
  /-- All that the media origin writes before it closes; none if it cannot be reached. -/
  origin : Option (Errand → Http.Wire.Arrival)

end MatrixGateway
