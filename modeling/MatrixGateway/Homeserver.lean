import MatrixGateway.Http.Uri
import MatrixGateway.Url.Parse

/-!
# The homeserver

The one server that requests go to, written as host and port. Its origin is
the `https` URL of the host alone; a bridged request names the address as it
was written, before the path and query of the request.
-/

set_option autoImplicit false

namespace MatrixGateway

inductive HomeserverError where
  | empty
  | invalidAddress (address reason : String)
  | invalidOrigin (host : String) (cause : UrlError)
  deriving DecidableEq

def HomeserverError.message : HomeserverError → String
  | .empty => "--homeserver must be set"
  | .invalidAddress address reason => "`" ++ address ++ "` not a valid host: " ++ reason
  | .invalidOrigin host cause => "`https://" ++ host ++ "` not a valid URL: " ++ cause.message

structure Homeserver where
  address : String
  host : String
  port : UInt16
  origin : Url
  deriving DecidableEq

namespace Homeserver

def originOf (host : List Char) : Except UrlError Url := Url.parse ("https://".toList ++ host)

def parse (address : String) : Except HomeserverError Homeserver := do
  let s := address.toList
  if s = [] then throw .empty
  if s.contains '@' ∨ s.contains '/' then
    throw (.invalidAddress address "expected host:port without scheme or path")
  let authority ← match Http.Authority.parse s with
    | .ok authority => pure authority
    | .error _ => throw (.invalidAddress address "unparsable authority")
  let some port := Http.Authority.port? authority
    | throw (.invalidAddress address "missing port in address")
  let host := Http.Authority.host authority
  if host = [] then throw (.invalidAddress address "missing host in address")
  match originOf host with
  | .ok origin => return { address, host := String.ofList host, port, origin }
  | .error cause => throw (.invalidOrigin (String.ofList host) cause)

/-- The target that a request is bridged to, without a scheme. -/
def target (h : Homeserver) (uri : Http.Uri) : List Char :=
  "//".toList ++ h.address.toList ++ uri.pathAndQuery

end Homeserver

end MatrixGateway
