/-!
# The shutdown event

One event may be pending for each subscriber. A subscriber that missed
earlier ones is told once how many, and then receives the latest. What was
triggered before a subscription is never seen by it.
-/

set_option autoImplicit false

namespace MatrixGateway

structure Shutdown where
  triggered : Nat := 0
  cursors : List Nat := []
  deriving DecidableEq

namespace Shutdown

inductive Op where
  | subscribe
  | trigger
  | recv (subscriber : Nat)
  deriving DecidableEq

inductive Reception where
  | fired
  | empty
  | lagged (missed : Nat)
  deriving DecidableEq

inductive Answer where
  | subscribed (subscriber : Nat)
  | triggered
  | received (r : Reception)
  | unknown
  deriving DecidableEq

/-- What a subscriber that is done with `cursor` events receives, and what it
is done with then. -/
def receive (triggered cursor : Nat) : Reception × Nat :=
  if triggered ≤ cursor then (.empty, cursor)
  else if cursor + 1 = triggered then (.fired, triggered)
  else (.lagged (triggered - 1 - cursor), triggered - 1)

def step (op : Op) (s : Shutdown) : Shutdown × Answer :=
  match op with
  | .subscribe => ({ s with cursors := s.cursors ++ [s.triggered] }, .subscribed s.cursors.length)
  | .trigger => ({ s with triggered := s.triggered + 1 }, .triggered)
  | .recv i =>
    match s.cursors[i]? with
    | none => (s, .unknown)
    | some cursor =>
      let (r, cursor) := receive s.triggered cursor
      ({ s with cursors := s.cursors.set i cursor }, .received r)

def run : List Op → Shutdown → List Answer
  | [], _ => []
  | op :: ops, s => (step op s).2 :: run ops (step op s).1

end Shutdown

end MatrixGateway
