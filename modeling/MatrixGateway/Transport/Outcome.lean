import MatrixGateway.Http.Method
import MatrixGateway.Bytes

/-!
# Submissions and their outcomes

One request is handed to the transport as a whole, and the transport
answers with a whole response or with the reason why there is none.
-/

set_option autoImplicit false

namespace MatrixGateway.Transport

structure Submission where
  method : Http.Method
  url : String
  token : String
  body : Bytes
  deriving DecidableEq

structure Response where
  status : Nat
  body : Bytes
  deriving DecidableEq

inductive Failure where
  | timeout (attempts : Nat)
  | unreachable (reason : String)
  | invalidDestination (url : String)
  | exhausted (attempts : Nat) (reason : String)
  deriving DecidableEq

namespace Failure

def kind : Failure → String
  | .timeout _ => "timeout"
  | .unreachable _ => "unreachable"
  | .invalidDestination _ => "invalid_destination"
  | .exhausted .. => "exhausted"

def message : Failure → String
  | .timeout attempts => s!"no acknowledgement after {attempts} attempts"
  | .unreachable reason => "homeserver unreachable: " ++ reason
  | .invalidDestination url => "invalid destination `" ++ url ++ "`"
  | .exhausted attempts reason => s!"delivery failed after {attempts} attempts: " ++ reason

end Failure

abbrev Outcome := Except Failure Response

end MatrixGateway.Transport
