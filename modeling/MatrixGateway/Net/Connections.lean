/-!
# Live connections and the drain

Every tracked connection holds a guard; the count is the number of guards
not yet dropped. Beginning a drain raises a version number, and a receiver
reports a change when the version it saw last is an older one. A receiver
starts from the version of the creation, however late it is made. Waiting
for the drain looks at the count every hundred milliseconds.
-/

set_option autoImplicit false

namespace MatrixGateway

structure Connections where
  opened : Nat := 0
  live : List Nat := []
  drains : Nat := 0
  seen : List Nat := []
  deriving DecidableEq

namespace Connections

/-- A guard dropped at a time, in milliseconds from the start of a wait. -/
structure Drop where
  time : Nat
  guard : Nat
  deriving DecidableEq

inductive Op where
  | track
  | drop (guard : Nat)
  | receiver
  | poll (receiver : Nat)
  | beginDrain
  | wait (limit : Nat) (drops : List Drop)
  deriving DecidableEq

inductive Answer where
  | tracked (guard : Nat)
  | dropped (done : Bool)
  | subscribed
  | polled (changed draining : Bool)
  | unknown
  | begun
  | waited (drained : Bool) (elapsed : Nat)
  deriving DecidableEq

def active (c : Connections) : Nat := c.live.length

def release (c : Connections) (guard : Nat) : Connections :=
  { c with live := c.live.filter (· ≠ guard) }

/-- Milliseconds between two looks at the count. -/
def period : Nat := 100

def liveAt (live : List Nat) (drops : List Drop) (time : Nat) : List Nat :=
  live.filter fun g => !drops.any fun d => d.guard = g && d.time ≤ time

def await (live : List Nat) (drops : List Drop) (limit time : Nat) : Bool × Nat :=
  if liveAt live drops time = [] then (true, time)
  else if time + period ≤ limit then await live drops limit (time + period)
  else (false, limit)
termination_by limit - time
decreasing_by simp only [period] at *; omega

def step (op : Op) (c : Connections) : Connections × Answer :=
  match op with
  | .track => ({ c with opened := c.opened + 1, live := c.live ++ [c.opened] }, .tracked c.opened)
  | .drop guard => (c.release guard, .dropped (c.live.contains guard))
  | .receiver => ({ c with seen := c.seen ++ [0] }, .subscribed)
  | .poll i =>
    match c.seen[i]? with
    | none => (c, .unknown)
    | some v => ({ c with seen := c.seen.set i c.drains }, .polled (v ≠ c.drains) (c.drains ≠ 0))
  | .beginDrain => ({ c with drains := c.drains + 1 }, .begun)
  | .wait limit drops =>
    let (drained, elapsed) := await c.live drops limit 0
    (drops.foldl (fun c d => c.release d.guard) c, .waited drained elapsed)

def run : List Op → Connections → List (Answer × Nat)
  | [], _ => []
  | op :: ops, c => ((step op c).2, (step op c).1.active) :: run ops (step op c).1

end Connections

end MatrixGateway
