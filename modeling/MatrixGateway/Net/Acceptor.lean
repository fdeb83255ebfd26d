import MatrixGateway.Net.Admission

/-!
# An accept and its two waits

An accept waits for a permit and then, with the permit in hand, for a client,
and it may be given up in either wait. A permit that is given back meanwhile
goes straight to the accept that waits for one, and is free again if that
accept is given up before it has noticed.
-/

set_option autoImplicit false

namespace MatrixGateway

namespace Acceptor

inductive Wait where
  | idle
  | forPermit
  /-- A permit has been passed on to it, and it has not noticed yet. -/
  | granted
  | forClient
  deriving DecidableEq

inductive Op where
  | connect
  | poll
  | giveUp
  /-- An accept that is given up if it has to wait. -/
  | accept
  | release (index : Nat)
  deriving DecidableEq

end Acceptor

structure Acceptor extends Admission where
  wait : Acceptor.Wait := .idle
  deriving DecidableEq

namespace Acceptor

def opened (admission : Admission) : Acceptor := { toAdmission := admission }

def inHand (a : Acceptor) : Nat :=
  match a.wait with
  | .idle | .forPermit => 0
  | .granted | .forClient => 1

/-- With its permit in hand the accept takes the client that has waited longest, or waits. -/
def listen (a : Acceptor) : Acceptor × Option Nat :=
  match a.take? with
  | some taken => ({ toAdmission := taken, wait := .idle }, a.waiting.head?)
  | none => ({ a with wait := .forClient }, none)

def poll (a : Acceptor) : Acceptor × Option Nat :=
  match a.wait with
  | .idle =>
    match a.reserve? with
    | some reserved => listen { toAdmission := reserved, wait := .granted }
    | none => ({ a with wait := .forPermit }, none)
  | .forPermit => (a, none)
  | .granted | .forClient => a.listen

def giveUp (a : Acceptor) : Acceptor :=
  match a.wait with
  | .idle | .forPermit => { a with wait := .idle }
  | .granted | .forClient => { toAdmission := a.giveBack, wait := .idle }

def release (a : Acceptor) (index : Nat) : Acceptor × Admission.Answer :=
  let (admission, answer) := Admission.step (.release index) a.toAdmission
  if a.wait = .forPermit ∧ answer = .released true then
    ({ toAdmission := { admission with available := a.available }, wait := .granted }, answer)
  else ({ a with toAdmission := admission }, answer)

def step (op : Op) (a : Acceptor) : Acceptor × Admission.Answer :=
  match op with
  | .connect => ({ a with toAdmission := (Admission.step .connect a.toAdmission).1 }, .connected)
  | .poll => (a.poll.1, .accepted a.poll.2)
  | .giveUp => (a.giveUp, .accepted none)
  | .accept => (a.poll.1.giveUp, .accepted a.poll.2)
  | .release index => a.release index

def after (ops : List Op) (a : Acceptor) : Acceptor := ops.foldl (fun a op => (step op a).1) a

def run : List Op → Acceptor → List (Admission.Answer × Nat)
  | [], _ => []
  | op :: ops, a => ((step op a).2, (step op a).1.available) :: run ops (step op a).1

end Acceptor

end MatrixGateway
