/-!
# Refusals

What the gateway itself answers when a request cannot be bridged: a status
and a small JSON envelope.
-/

set_option autoImplicit false

namespace MatrixGateway

inductive Refusal where
  | bodyRead
  | forward
  deriving DecidableEq

namespace Refusal

def status : Refusal → Nat
  | .bodyRead => 400
  | .forward => 502

def message : Refusal → String
  | .bodyRead => "cannot read request body"
  | .forward => "failed to forward request to homeserver"

/-- No message holds a character that JSON escapes. -/
def envelope (r : Refusal) : String :=
  "\x7b\"errcode\":\"PROXY\",\"error\":\"" ++ r.message ++ "\"\x7d"

end Refusal

end MatrixGateway
