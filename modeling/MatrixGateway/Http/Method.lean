import MatrixGateway.Bytes

/-!
# Request methods

A method is a non-empty token, compared with its case. Whether a request
may be repeated without further effect is known of seven methods only.
-/

set_option autoImplicit false

namespace MatrixGateway.Http

def isTokenChar (c : Char) : Bool :=
  c.isAlphanum || "!#$%&'*+-.^_`|~".toList.contains c

structure Method where
  name : String
  deriving DecidableEq

namespace Method

def ofBytes? (raw : Bytes) : Option Method :=
  let name := raw.latin
  if name ≠ [] ∧ name.all isTokenChar then some ⟨String.ofList name⟩ else none

def get : Method := ⟨"GET"⟩
def head : Method := ⟨"HEAD"⟩
def connect : Method := ⟨"CONNECT"⟩

def isIdempotent (m : Method) : Bool :=
  ["GET", "HEAD", "PUT", "DELETE", "OPTIONS", "TRACE", "QUERY"].contains m.name

end Method

end MatrixGateway.Http
