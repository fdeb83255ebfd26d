import MatrixGateway.Http.Headers
import MatrixGateway.Http.Uri
import MatrixGateway.Url.Parse

/-!
# The media origin

Media is fetched from one origin under the path that the client asked for.
The target is read as a URL, which may write a path differently; then there
is no target, rather than one at another path.
-/

set_option autoImplicit false

namespace MatrixGateway

inductive MediaError where
  | missingHost (url : List Char)
  | invalidHost (authority : List Char)
  deriving DecidableEq

def MediaError.message : MediaError → String
  | .missingHost url => "origin `" ++ String.ofList url ++ "` has no host"
  | .invalidHost authority =>
    "origin host `" ++ String.ofList authority ++ "` is not a valid Host header"

structure MediaOrigin where
  scheme : List Char
  authority : List Char
  deriving DecidableEq

namespace MediaOrigin

def ofUrl (u : Url) : Except MediaError MediaOrigin :=
  match u.server with
  | some server =>
    if server.host.isNone then .error (.missingHost u.text)
    else if (Bytes.ofText server.authority).all Http.isFieldByte then
      .ok ⟨u.scheme, server.authority⟩
    else .error (.invalidHost server.authority)
  | none => .error (.missingHost u.text)

def base (o : MediaOrigin) : List Char := o.scheme ++ "://".toList ++ o.authority

/-- None when the path would not be the one asked for. -/
def target? (o : MediaOrigin) (uri : Http.Uri) : Option Url :=
  match Url.parse (o.base ++ uri.pathAndQuery) with
  | .ok u => if u.path.text = uri.path then some u else none
  | .error _ => none

end MediaOrigin

end MatrixGateway
