import MatrixGateway.Transport.Https

/-!
# Submissions in flight

Any number of submissions may be in flight while the parameters are
replaced. The record in force and the client built from it are one value,
and a flight keeps the one it was launched with for all its attempts. A
client that cannot be built replaces nothing.
-/

set_option autoImplicit false

namespace MatrixGateway.Transport

/-- What a client of the network was told when it was built. -/
structure Client where
  trustsAny : Bool
  connectTimeout : Span
  keepAlive : Span
  idleTimeout : Span
  deriving DecidableEq

def Client.ofParams (p : Params) : Client where
  trustsAny := p.insecureSkipVerify
  connectTimeout := p.ackTimeout
  keepAlive := Span.ofSecs (max p.heartbeatTimeoutSecs 1)
  idleTimeout := Span.ofSecs (max p.keepAliveTimeoutSecs 1)

structure Rig where
  params : Params
  client : Client
  deriving DecidableEq

def Rig.ofParams (p : Params) : Rig := ⟨p, Client.ofParams p⟩

inductive Phase where
  | ready
  | pausing
  | landed (outcome : Outcome)

structure Flight where
  rig : Rig
  submission : Submission
  destination : Url
  attempts : Nat := 0
  phase : Phase := .ready

namespace Flight

def after (f : Flight) (k : Nat) (result : Except (AttemptFailure × String) Response) : Phase :=
  match result with
  | .ok r => .landed (.ok r)
  | .error (failure, reason) =>
    if k < f.rig.params.maxAttempts ∧ failure.retryable f.submission.method then .pausing
    else .landed (.error (failure.conclude k reason))

def pause (f : Flight) (draw : Nat) : Span :=
  Backoff.delay f.attempts f.rig.params.flightInterval Backoff.cap draw

end Flight

structure Flights where
  rig : Rig
  flights : List Flight := []

namespace Flights

inductive Op where
  | ask
  | replace (p : Params) (isBuildable : Bool)
  | launch (s : Submission)
  | attempt (flight : Nat) (result : Except (AttemptFailure × String) Response)
  | resume (flight : Nat) (draw : Nat)

inductive Answer where
  | params (p : Params)
  | launched (flight : Nat)
  | refused (f : Failure)
  | sent (client : Client) (errand : Except String Errand)
  | paused (pause : Span)
  | unknown

def step (op : Op) (s : Flights) : Flights × Answer :=
  match op with
  | .ask => (s, .params s.rig.params)
  | .replace p isBuildable =>
    let rig := if isBuildable then Rig.ofParams p else s.rig
    ({ s with rig }, .params rig.params)
  | .launch submission =>
    match submission.destination with
    | .error f => (s, .refused f)
    | .ok destination =>
      ({ s with flights := s.flights ++ [{ rig := s.rig, submission, destination }] },
        .launched s.flights.length)
  | .attempt i result =>
    match s.flights[i]? with
    | some f =>
      match f.phase with
      | .ready =>
        let k := f.attempts + 1
        ({ s with flights := s.flights.set i { f with attempts := k, phase := f.after k result } },
          .sent f.rig.client (f.submission.errand f.destination))
      | _ => (s, .unknown)
    | none => (s, .unknown)
  | .resume i draw =>
    match s.flights[i]? with
    | some f =>
      match f.phase with
      | .pausing =>
        ({ s with flights := s.flights.set i { f with phase := .ready } }, .paused (f.pause draw))
      | _ => (s, .unknown)
    | none => (s, .unknown)

def run : List Op → Flights → Flights × List Answer
  | [], s => (s, [])
  | op :: ops, s =>
    let (s, a) := step op s
    let (s, rest) := run ops s
    (s, a :: rest)

end Flights

end MatrixGateway.Transport
