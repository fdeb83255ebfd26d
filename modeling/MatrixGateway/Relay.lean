import MatrixGateway.Http.Wire
import MatrixGateway.Media
import MatrixGateway.Reaction

/-!
# The media relay

A media request goes to the media origin as it is, but for the fields that
belong to one connection, and the origin's answer comes back in the same
way. The host is the origin's, and the client's address is added to those
it was forwarded for.
-/

set_option autoImplicit false

namespace MatrixGateway.MediaOrigin

def appendForwarded (h : Http.Headers) (client : Ip) : Http.Headers :=
  let value := match (h.get? .forwardedFor).bind Http.readable? with
    | some prior => if prior = "" then client.text else prior ++ ", " ++ client.text
    | none => client.text
  h.insert .forwardedFor (Bytes.ofString value)

def errandHeaders (o : MediaOrigin) (r : Http.Request) : Http.Headers :=
  let h := r.headers.stripHopByHop.insert .host (Bytes.ofText o.authority)
  match r.client with
  | some ip => appendForwarded h ip
  | none => h

/-- What is sent of a body. Without an announced length, three methods send
nothing; with one, no more than announced, and never less. -/
def errandBody (m : Http.Method) (announced : Option Nat) (body : Http.Body) : Nat × Option Bytes :=
  match announced with
  | none => if [.get, .head, .connect].contains m then (0, some []) else body.read none
  | some n =>
    let (time, bytes) := body.read none
    (time, bytes.bind fun bs => if n ≤ bs.length then some (bs.take n) else none)

def badGateway (time : Nat) : Reaction := { time, answer := { status := 502 } }

def passOn (reply : Http.Wire.Reply) : Http.Answer :=
  { status := reply.status, headers := reply.headers.stripHopByHop,
    body := .stream reply.body reply.isComplete }

/-- Sends the request to a URL of the origin, which is reached before the body is read. -/
def forward (o : MediaOrigin) (origin : Errand → Http.Wire.Arrival) (url : Url)
    (r : Http.Request) : Reaction :=
  let headers := o.errandHeaders r
  let announced := Http.Wire.announcedLength? (headers.getAll .contentLength)
  match errandBody r.method announced r.body with
  | (time, none) => badGateway time
  | (time, some body) =>
    let errand := Errand.toUrl r.method url headers body
    match Http.Wire.readReply? r.method (origin errand) with
    | none => { badGateway time with sent := some errand }
    | some reply => { time, answer := passOn reply, sent := some errand }

def handle (o : MediaOrigin) (peers : Peers) (r : Http.Request) : Reaction :=
  match o.target? r.uri with
  | none => { time := 0, answer := { status := 400 } }
  | some url =>
    match peers.origin with
    | some origin => if Errand.canGo url then o.forward origin url r else badGateway 0
    | none => badGateway 0

end MatrixGateway.MediaOrigin
