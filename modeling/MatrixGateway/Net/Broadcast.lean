import MatrixGateway.Net.Shutdown

/-!
# The channel of the shutdown

The channel keeps the last event for those who have subscribed. An event is
discarded if nobody has. A subscriber without anything pending is told so
while the shutdown is there, and that the channel is closed once it is gone.
-/

set_option autoImplicit false

namespace MatrixGateway

structure Broadcast extends Shutdown where
  isOpen : Bool := true
  deriving DecidableEq

namespace Broadcast

open Shutdown (Op)

inductive Answer where
  | given (answer : Shutdown.Answer)
  | closed
  deriving DecidableEq

/-- The shutdown goes, and what is pending stays. -/
def close (b : Broadcast) : Broadcast := { b with isOpen := false }

def step (op : Op) (b : Broadcast) : Broadcast × Answer :=
  let (shutdown, answer) := Shutdown.step op b.toShutdown
  match op with
  | .subscribe =>
    if b.isOpen then ({ b with toShutdown := shutdown }, .given answer) else (b, .given .unknown)
  | .trigger =>
    if b.isOpen then
      (if b.cursors = [] then b else { b with toShutdown := shutdown }, .given answer)
    else (b, .given .unknown)
  | .recv _ =>
    ({ b with toShutdown := shutdown },
      if answer = .received .empty ∧ b.isOpen = false then .closed else .given answer)

def after (ops : List Op) (b : Broadcast) : Broadcast := ops.foldl (fun b op => (step op b).1) b

def run : List Op → Broadcast → List Answer
  | [], _ => []
  | op :: ops, b => (step op b).2 :: run ops (step op b).1

end Broadcast

end MatrixGateway
