import MatrixGateway.Http.Body
import MatrixGateway.Http.Headers
import MatrixGateway.Http.Uri
import MatrixGateway.Net.Ip

/-!
# Requests and answers

What a client asks and what it is answered. An answer's body has a known
length or is passed on as it comes, and then it may break off.
-/

set_option autoImplicit false

namespace MatrixGateway.Http

structure Request where
  method : Method
  uri : Uri
  headers : Headers := {}
  body : Body := .whole []
  client : Option Ip := none
  deriving DecidableEq

inductive Payload where
  | whole (bytes : Bytes)
  | stream (bytes : Bytes) (isComplete : Bool)
  deriving DecidableEq

def Payload.length? : Payload → Option Nat
  | whole bytes => some bytes.length
  | stream .. => none

structure Answer where
  status : Nat
  headers : Headers := {}
  body : Payload := .whole []
  deriving DecidableEq

namespace Answer

def isSuccess (a : Answer) : Bool := 200 ≤ a.status && a.status < 300

def sized (a : Answer) : Answer :=
  match a.body.length? with
  | some n =>
    if a.headers.contains .contentLength then a
    else { a with headers := a.headers.append .contentLength (Bytes.ofString (toString n)) }
  | none => a

/-- As a client of that method gets it: an open tunnel and an answer to `HEAD`
have no body, but the latter tells the length. -/
def framed (a : Answer) (m : Method) : Answer :=
  if m = .connect ∧ a.isSuccess then { a with body := .whole [] }
  else if m = .head then { a.sized with body := .whole [] }
  else a.sized

def traced (a : Answer) (id : Option Bytes) : Answer :=
  match id with
  | some id =>
    if a.headers.contains .requestId then a
    else { a with headers := a.headers.append .requestId id }
  | none => a

end Answer

end MatrixGateway.Http
