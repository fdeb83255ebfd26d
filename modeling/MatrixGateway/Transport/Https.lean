import MatrixGateway.Http.Errand
import MatrixGateway.Http.Wire
import MatrixGateway.Text.Base64
import MatrixGateway.Transport.Delivery
import MatrixGateway.Url.Parse

/-!
# Delivery by HTTPS

A submission names its server without a scheme and goes to it by HTTPS, or
by the scheme it does name. One attempt makes one request of it; what comes
of contacting the server decides whether there is a response. A
destination that cannot be read is never attempted.
-/

set_option autoImplicit false

namespace MatrixGateway.Transport

namespace Submission

def destination (s : Submission) : Except Failure Url :=
  let text := s.url.toList
  match Url.parse (if "//".toList.isPrefixOf text then "https:".toList ++ text else text) with
  | .ok u => .ok u
  | .error _ => .error (.invalidDestination s.url)

/-- The fields that stand for the user of a URL, as far as that is text. -/
def credentials (u : Url) : Option Bytes := do
  let server ← u.server
  if server.user = [] ∧ server.password = [] then none
  let user ← Bytes.text? (Url.decode (Bytes.ofText server.user))
  let password := (Bytes.text? (Url.decode (Bytes.ofText server.password))).getD []
  return Bytes.ofText ("Basic ".toList ++ Text.base64 (Bytes.ofText (user ++ ':' :: password)))

def bearer (s : Submission) : Bytes := Bytes.ofString ("Bearer " ++ s.token)

def headers? (s : Submission) (u : Url) : Option Http.Headers :=
  if s.bearer.all Http.isFieldByte then
    some ⟨(credentials u).toList.map (Http.HeaderName.authorization, ·) ++
      (if s.token = "" then [] else [(.authorization, s.bearer)]) ++
      (if s.body = [] then []
        else [(.contentType, Bytes.ofString "application/json"),
          (.contentLength, Bytes.ofString (toString s.body.length))])⟩
  else none

end Submission

inductive Contact where
  | refused (nanos : Nat)
  | overdue
  | wrote (nanos : Nat) (arrival : Http.Wire.Arrival)
  deriving DecidableEq

def sendingFailed (u : Url) : String :=
  "error sending request for url (" ++ String.ofList u.withoutUser.text ++ ")"

/-- The attempt that such a contact makes; only a whole response succeeds. -/
def Contact.attempt (p : Params) (m : Http.Method) (u : Url) : Contact → Attempt
  | refused nanos => ⟨nanos, .error (.connect false, sendingFailed u)⟩
  | overdue => ⟨p.ackTimeout.nanos, .error (.connect true, sendingFailed u)⟩
  | wrote nanos arrival =>
    match Http.Wire.readReply? m arrival with
    | none => ⟨nanos, .error (.other, sendingFailed u)⟩
    | some reply =>
      if reply.isComplete then ⟨nanos, .ok ⟨reply.status, reply.body⟩⟩
      else ⟨nanos, .error (.other, "error decoding response body")⟩

namespace Submission

def errand (s : Submission) (u : Url) : Except String Errand :=
  match s.headers? u with
  | none => .error "builder error"
  | some headers =>
    if Errand.canGo u.withoutUser then .ok (Errand.toUrl s.method u.withoutUser headers s.body)
    else .error ("builder error for url (" ++ String.ofList u.withoutUser.text ++ ")")

def attempt (s : Submission) (p : Params) (u : Url) (contact : Errand → Contact) : Attempt :=
  match s.errand u with
  | .error reason => ⟨0, .error (.other, reason)⟩
  | .ok e => (contact e).attempt p s.method u

end Submission

def Params.send (p : Params) (s : Submission) (contact : Nat → Url → Errand → Contact)
    (draw : Nat → Nat) : Delivery :=
  match s.destination with
  | .error f => ⟨.error f, [], []⟩
  | .ok u => p.deliver s.method (fun k => s.attempt p u (contact k u)) draw

def Params.transport (p : Params) (contact : Nat → Url → Errand → Contact) (draw : Nat → Nat)
    (s : Submission) : Nat × Outcome :=
  let d := p.send s contact draw
  (d.elapsed, d.outcome)

end MatrixGateway.Transport
