import MatrixGateway.Bridge
import MatrixGateway.Metrics
import MatrixGateway.Relay
import MatrixGateway.Startup

/-!
# The router

Every request gets a name, is handled within a time, and is answered under
its name. Only paths that begin with a slash have a handler. A handler that
is done in time is counted; at the very end of the time it is too late.
-/

set_option autoImplicit false

namespace MatrixGateway

structure Router where
  bridge : Bridge
  media : MediaOrigin
  /-- Nanoseconds allowed for a handler. -/
  writeTimeout : Nat

namespace Router

def ofSettings (s : Settings) (homeserver : Homeserver) (media : MediaOrigin) : Router where
  bridge := {
    homeserver
    readTimeout := (Span.ofSecs s.timeouts.readSecs).nanos
    maxBody := s.bridge.maxBodyBytes.toNat }
  media
  writeTimeout := (Span.ofSecs s.timeouts.writeSecs).nanos

def route (r : Http.Request) : Route := Route.classify r.uri.path

def isHandled (r : Http.Request) : Bool := r.uri.path.head? = some '/'

/-- What is sent to the media origin is answered after `originDelay` nanoseconds. -/
def handle (router : Router) (peers : Peers) (r : Http.Request) (originDelay : Nat := 0) :
    Reaction :=
  match route r with
  | .media =>
    let reaction := router.media.handle peers r
    if reaction.sent.isSome then { reaction with time := reaction.time + originDelay } else reaction
  | .api => router.bridge.handle peers r

/-- The reaction as far as the time allows, and whether it was done in time. -/
def within (limit : Nat) (reaction : Reaction) : Reaction × Bool :=
  if reaction.time < limit then (reaction, true)
  else
    ({ time := limit, answer := { status := 408 },
       submitted := reaction.submitted.filter (·.1 < limit),
       sent := if limit = 0 then none else reaction.sent }, false)

def named (r : Http.Request) (fresh : Bytes) : Http.Request :=
  if r.headers.contains .requestId then r
  else { r with headers := r.headers.append .requestId fresh }

def counted (m : Metrics) (route : Route) (reaction : Reaction) : Metrics :=
  let m := match reaction.undelivered with
    | some kind => m.undelivered kind
    | none => m
  m.finished route reaction.answer.status

def serve (router : Router) (peers : Peers) (fresh : Bytes) (r : Http.Request) (m : Metrics)
    (originDelay : Nat := 0) : Reaction × Metrics :=
  let r := named r fresh
  let id := r.headers.get? .requestId
  let finish (reaction : Reaction) : Reaction :=
    { reaction with answer := (reaction.answer.traced id).framed r.method }
  if isHandled r then
    let (reaction, inTime) := within router.writeTimeout (router.handle peers r originDelay)
    (finish reaction, if inTime then counted m (route r) reaction else m)
  else (finish { time := 0, answer := { status := 404 } }, m)

structure Call where
  request : Http.Request
  peers : Peers
  fresh : Bytes
  originDelay : Nat := 0

def run (router : Router) : List Call → Metrics → List Reaction × Metrics
  | [], m => ([], m)
  | c :: cs, m =>
    let (reaction, m) := router.serve c.peers c.fresh c.request m c.originDelay
    let (reactions, m) := run router cs m
    (reaction :: reactions, m)

end Router

end MatrixGateway
