import MatrixGateway.Net.Connections

/-!
# Connections counted in words

The tracker does not look after its guards. It counts them in a word, which
a new guard raises and a dropped one lowers, and it names them from a counter
that the whole program shares; both words wrap. Waiting for the drain looks
at nothing but the count.
-/

set_option autoImplicit false

namespace MatrixGateway

structure Tracker extends Connections where
  count : UInt64 := 0
  nextId : UInt64 := 1
  ids : List UInt64 := []
  deriving DecidableEq

namespace Tracker

open Connections (Op Answer Drop period)

def track (t : Tracker) : Tracker where
  toConnections := (Connections.step .track t.toConnections).1
  count := t.count + 1
  nextId := t.nextId + 1
  ids := t.ids ++ [t.nextId]

/-- A guard can be dropped only while somebody holds it. -/
def drop (t : Tracker) (guard : Nat) : Tracker :=
  if guard ∈ t.live then { t with toConnections := t.release guard, count := t.count - 1 } else t

def dropAll (t : Tracker) (drops : List Drop) : Tracker :=
  drops.foldl (fun t d => t.drop d.guard) t

def dropDue (t : Tracker) (drops : List Drop) (time : Nat) : Tracker :=
  t.dropAll (drops.filter (·.time ≤ time))

/-- Looks at the count at `time` and then every period, up to `limit`, while the drops take
place; with the answer goes the tracker as it stands then. -/
def await (t : Tracker) (drops : List Drop) (limit time : Nat) : Tracker × Bool × Nat :=
  if (t.dropDue drops time).count = 0 then (t.dropDue drops time, true, time)
  else if time + period ≤ limit then (t.dropDue drops time).await drops limit (time + period)
  else ((t.dropDue drops time).dropDue drops limit, false, limit)
termination_by limit - time
decreasing_by simp only [period] at *; omega

/-- Drops that are not due when a wait ends take place after it. -/
def step (op : Op) (t : Tracker) : Tracker × Answer :=
  match op with
  | .track => (t.track, .tracked t.opened)
  | .drop guard => (t.drop guard, .dropped (guard ∈ t.live))
  | .wait limit drops =>
    let (ended, drained, elapsed) := t.await drops limit 0
    (ended.dropAll drops, .waited drained elapsed)
  | .receiver | .poll _ | .beginDrain =>
    let (connections, answer) := Connections.step op t.toConnections
    ({ t with toConnections := connections }, answer)

def after (ops : List Op) (t : Tracker) : Tracker := ops.foldl (fun t op => (step op t).1) t

def run : List Op → Tracker → List (Answer × UInt64)
  | [], _ => []
  | op :: ops, t => ((step op t).2, (step op t).1.count) :: run ops (step op t).1

end Tracker

end MatrixGateway
