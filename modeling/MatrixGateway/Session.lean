import MatrixGateway.Http.Inbound
import MatrixGateway.Router

/-!
# Sessions

A client sends requests over one connection and gets an answer to each, in
their order. The session ends with an answer that closes the connection,
with a body that broke off, or with a head that was refused.
-/

set_option autoImplicit false

namespace MatrixGateway

structure Session where
  client : Option Ip
  unread : Bytes := []
  isOpen : Bool := true
  deriving DecidableEq

namespace Session

inductive Turn where
  | answered (link : Http.Link) (r : Reaction)
  | cutShort (r : Reaction)
  | refused (a : Http.Answer)
  | closed
  deriving DecidableEq

def isWhole (a : Http.Answer) : Bool :=
  match a.body with
  | .whole _ => true
  | .stream _ isComplete => isComplete

/-- The turn that the next request takes, after `sent` came. -/
def turn (router : Router) (peers : Peers) (fresh : Bytes) (s : Session) (sent : Bytes)
    (m : Metrics) : Session × Turn × Metrics :=
  let ended : Session := { s with unread := [], isOpen := false }
  if s.isOpen then
    match Http.Inbound.read s.client (s.unread ++ sent) with
    | .unfinished => (ended, .closed, m)
    | .refused status => (ended, .refused (Http.Answer.bare status), m)
    | .request r link rest =>
      let (reaction, m) := router.serve peers fresh r m
      if isWhole reaction.answer then
        let last := reaction.answer.isLast link
        let reaction := { reaction with answer := reaction.answer.linked link }
        (if last then ended else { s with unread := rest }, .answered link reaction, m)
      else (ended, .cutShort reaction, m)
  else (ended, .closed, m)

def write (link : Http.Link) (a : Http.Answer) : Bytes :=
  match a.body with
  | .whole bytes => Http.Wire.writeHead a.status a.headers ++ bytes
  | .stream bytes _ =>
    if a.headers.contains .contentLength || link.version = 0 then
      Http.Wire.writeHead a.status a.headers ++ bytes
    else
      Http.Wire.writeHead a.status
        (a.headers.append .transferEncoding (Bytes.ofString "chunked")) ++
        Http.Wire.writeChunks bytes

def Turn.bytes : Turn → Bytes
  | answered link r => write link r.answer
  | cutShort _ | closed => []
  | refused a => write ⟨1, false⟩ a

end Session

end MatrixGateway
