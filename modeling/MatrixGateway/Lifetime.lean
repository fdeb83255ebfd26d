import MatrixGateway.Net.Shutdown

/-!
# From start to shutdown

A watcher waits for the first signal and then triggers the shutdown; the
main task starts the watcher, subscribes to the shutdown, opens its doors
and enters the accept loop. The two take their steps in any order, so a
signal may come at any point of the start.
-/

set_option autoImplicit false

namespace MatrixGateway

namespace Lifetime

inductive Watch where
  | absent
  | spawned
  | installed
  | signalled
  | triggered
  deriving DecidableEq

/-- How far the main task is; from `subscribed` on it has a place in the channel. -/
inductive Stage where
  | preparing
  | prepared
  | subscribed (receiver : Nat)
  | metered (receiver : Nat)
  | bound (receiver : Nat)
  | accepting (receiver : Nat)
  | told
  | failed
  /-- A signal that was not caught ends the program at once. -/
  | killed
  deriving DecidableEq

inductive Op where
  | spawn
  | install
  | signal
  | trigger
  | subscribe
  | startMetrics (isStarted : Bool)
  | bind (isBound : Bool)
  | enter
  | recv
  deriving DecidableEq

end Lifetime

structure Lifetime where
  channel : Shutdown := {}
  watch : Lifetime.Watch := .absent
  stage : Lifetime.Stage := .preparing
  deriving DecidableEq

namespace Lifetime

def isPending (l : Lifetime) (receiver : Nat) : Bool :=
  match (Shutdown.step (.recv receiver) l.channel).2 with
  | .received .empty | .unknown => false
  | _ => true

def runs (l : Lifetime) : Bool :=
  match l.stage with
  | .told | .failed | .killed => false
  | _ => true

def step (op : Op) (l : Lifetime) : Option Lifetime :=
  match op, l.watch, l.stage with
  | .spawn, .absent, .preparing => some { l with watch := .spawned, stage := .prepared }
  | .install, .spawned, _ => if l.runs then some { l with watch := .installed } else none
  | .signal, .absent, _ | .signal, .spawned, _ =>
    if l.runs then some { l with stage := .killed } else none
  | .signal, .installed, _ => if l.runs then some { l with watch := .signalled } else none
  | .signal, _, _ => if l.runs then some l else none
  | .trigger, .signalled, _ =>
    if l.runs then
      some { l with channel := (Shutdown.step .trigger l.channel).1, watch := .triggered }
    else none
  | .subscribe, _, .prepared =>
    some { l with
      channel := (Shutdown.step .subscribe l.channel).1
      stage := .subscribed l.channel.cursors.length }
  | .startMetrics isStarted, _, .subscribed r =>
    some { l with stage := if isStarted then .metered r else .failed }
  | .bind isBound, _, .metered r => some { l with stage := if isBound then .bound r else .failed }
  | .enter, _, .bound r => some { l with stage := .accepting r }
  | .recv, _, .accepting r =>
    some { l with
      channel := (Shutdown.step (.recv r) l.channel).1
      stage := if l.isPending r then .told else .accepting r }
  | _, _, _ => none

def run : List Op → Lifetime → Option Lifetime
  | [], l => some l
  | op :: ops, l => (step op l).bind (run ops)

end Lifetime

end MatrixGateway
