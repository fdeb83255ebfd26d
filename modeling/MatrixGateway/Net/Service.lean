import MatrixGateway.Net.Admission
import MatrixGateway.Net.Connections

/-!
# Serving until the shutdown

The accept loop, the tasks of its connections and the drain take their steps
in any order, on a clock of milliseconds. An accept waits for a permit and
then for a client; a failed one makes the loop rest. A connection's task
holds a permit and a guard, and drops the guard first. Once the loop has
heard of the shutdown, in whatever way, its accept is given up and it starts
no other; the drain then tells every task, and the service is over when no
guard is held or the drain has lasted too long.
-/

set_option autoImplicit false

namespace MatrixGateway

namespace Service

inductive Stage where
  | serving
  /-- The connection is over and its guard dropped. -/
  | served
  /-- The permit is given back too. -/
  | gone
  deriving DecidableEq

/-- A connection's task: its place among the accepted, its guard, its drain receiver. -/
structure Task where
  permit : Nat
  guard : Nat
  receiver : Nat
  stage : Stage := .serving
  isTold : Bool := false
  deriving DecidableEq

namespace Task

def isLive (t : Task) : Bool := t.stage = .serving

def holdsPermit (t : Task) : Bool := t.stage ≠ .gone

end Task

inductive Phase where
  /-- In the loop, with an accept under way that may have its permit already. -/
  | accepting (isReserved : Bool)
  /-- An accept has failed; the loop goes on at a time. -/
  | resting (wake : Nat)
  | closing
  /-- When the drain began, and when it looks at the count next. -/
  | draining (since next : Nat)
  | stopped (isDrained : Bool)
  deriving DecidableEq

def Phase.isClosed : Phase → Bool
  | accepting _ | resting _ => false
  | closing | draining .. | stopped _ => true

inductive Notice where
  | event
  | lagged (missed : Nat)
  | closed
  deriving DecidableEq

inductive Op where
  | pass (millis : Nat)
  | connect
  | reserve
  | accept
  | acceptFails
  | wake
  | finish (task : Nat)
  | release (task : Nat)
  | hear (notice : Notice)
  | beginDrain
  | look (task : Nat)
  | poll
  | giveUp
  deriving DecidableEq

def restTime : Nat := 100

def drainTime : Nat := 30000

end Service

structure Service where
  admission : Admission
  tracker : Connections := {}
  tasks : List Service.Task := []
  phase : Service.Phase := .accepting false
  clock : Nat := 0
  deriving DecidableEq

namespace Service

def opened (admission : Admission) : Service := { admission }

def alive (s : Service) : List Task := s.tasks.filter (·.isLive)

/-- Permits held by connections, and perhaps by the accept under way. -/
def held (s : Service) : Nat :=
  s.admission.held + if s.phase = .accepting true then 1 else 0

def take? (s : Service) : Option Service :=
  (Admission.take? s.admission).map fun admission =>
    let (tracker, _) := Connections.step .track s.tracker
    let (tracker, _) := Connections.step .receiver tracker
    { s with
      admission, tracker
      tasks := s.tasks ++ [{
        permit := s.admission.accepted.length
        guard := s.tracker.opened
        receiver := s.tracker.seen.length }]
      phase := .accepting false }

def finish? (s : Service) (i : Nat) : Option Service :=
  match s.tasks[i]? with
  | some task =>
    if task.stage = .serving then
      some { s with
        tracker := (Connections.step (.drop task.guard) s.tracker).1
        tasks := s.tasks.set i { task with stage := .served } }
    else none
  | none => none

def release? (s : Service) (i : Nat) : Option Service :=
  match s.tasks[i]? with
  | some task =>
    if task.stage = .served then
      some { s with
        admission := (Admission.step (.release task.permit) s.admission).1
        tasks := s.tasks.set i { task with stage := .gone } }
    else none
  | none => none

def hears (s : Service) (task : Task) : Bool :=
  (Connections.step (.poll task.receiver) s.tracker).2 = .polled true true

def look? (s : Service) (i : Nat) : Option Service :=
  match s.tasks[i]? with
  | some task =>
    if task.stage = .serving ∧ task.isTold = false then
      some { s with
        tracker := (Connections.step (.poll task.receiver) s.tracker).1
        tasks := s.tasks.set i { task with isTold := s.hears task } }
    else none
  | none => none

def step (op : Op) (s : Service) : Option Service :=
  match op, s.phase with
  | .pass millis, _ => some { s with clock := s.clock + millis }
  | .connect, _ => some { s with admission := (Admission.step .connect s.admission).1 }
  | .reserve, .accepting false =>
    (Admission.reserve? s.admission).map fun admission =>
      { s with admission, phase := .accepting true }
  | .accept, .accepting true => s.take?
  | .acceptFails, .accepting true =>
    some { s with admission := s.admission.giveBack, phase := .resting (s.clock + restTime) }
  | .wake, .resting wake =>
    if wake ≤ s.clock then some { s with phase := .accepting false } else none
  | .finish i, _ => s.finish? i
  | .release i, _ => s.release? i
  | .hear _, .accepting isReserved =>
    some { s with
      admission := if isReserved then s.admission.giveBack else s.admission
      phase := .closing }
  | .beginDrain, .closing =>
    some { s with
      tracker := (Connections.step .beginDrain s.tracker).1
      phase := .draining s.clock s.clock }
  | .look i, _ => s.look? i
  | .poll, .draining since next =>
    if next ≤ s.clock then
      some { s with phase :=
        if s.tracker.active = 0 then .stopped true
        else .draining since (s.clock + Connections.period) }
    else none
  | .giveUp, .draining since _ =>
    if since + drainTime ≤ s.clock then some { s with phase := .stopped false } else none
  | _, _ => none

def run : List Op → Service → Option Service
  | [], s => some s
  | op :: ops, s => (step op s).bind (run ops)

end Service

end MatrixGateway
