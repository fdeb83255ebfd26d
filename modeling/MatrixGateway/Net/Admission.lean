/-!
# Admission of connections

A fixed number of permits bounds the connections held at one time. An
accept takes a permit first and then the client that has waited longest;
without either it takes nothing. An accept may also wait for a client with
its permit in hand, and gives it back when it is given up.
-/

set_option autoImplicit false

namespace MatrixGateway

def Admission.maxPermits : Nat := 2305843009213693951

structure Admission where
  available : Nat
  waiting : List Nat := []
  connected : Nat := 0
  /-- Accepted clients in their order, each with whether its permit is still held. -/
  accepted : List (Nat × Bool) := []
  deriving DecidableEq

namespace Admission

inductive Op where
  | connect
  | accept
  | release (index : Nat)
  deriving DecidableEq

inductive Answer where
  | connected
  | accepted (client : Option Nat)
  | released (done : Bool)
  deriving DecidableEq

def open? (maxConnections : UInt64) : Option Admission :=
  if maxConnections.toNat ≤ maxPermits then some { available := maxConnections.toNat } else none

def held (a : Admission) : Nat := a.accepted.countP (·.2)

def step (op : Op) (a : Admission) : Admission × Answer :=
  match op with
  | .connect =>
    ({ a with waiting := a.waiting ++ [a.connected], connected := a.connected + 1 }, .connected)
  | .accept =>
    match a.available, a.waiting with
    | free + 1, client :: rest =>
      ({ a with available := free, waiting := rest, accepted := a.accepted ++ [(client, true)] },
        .accepted (some client))
    | _, _ => (a, .accepted none)
  | .release i =>
    match a.accepted[i]? with
    | some (client, true) =>
      ({ a with available := a.available + 1, accepted := a.accepted.set i (client, false) },
        .released true)
    | _ => (a, .released false)

def reserve? (a : Admission) : Option Admission :=
  match a.available with
  | free + 1 => some { a with available := free }
  | 0 => none

/-- The reserved permit goes to the client that has waited longest. -/
def take? (a : Admission) : Option Admission :=
  match a.waiting with
  | client :: rest =>
    some { a with waiting := rest, accepted := a.accepted ++ [(client, true)] }
  | [] => none

def giveBack (a : Admission) : Admission := { a with available := a.available + 1 }

def run : List Op → Admission → List (Answer × Nat)
  | [], _ => []
  | op :: ops, a => ((step op a).2, (step op a).1.available) :: run ops (step op a).1

end Admission

end MatrixGateway
