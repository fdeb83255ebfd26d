import MatrixGateway.Http.Headers
import MatrixGateway.Http.Uri
import MatrixGateway.Url.Basic

/-!
# Errands

A request that the gateway itself sends to a server. It goes to a URL, and
the fields that name the server and tell what is accepted are added where
they are missing.
-/

set_option autoImplicit false

namespace MatrixGateway

structure Errand where
  method : Http.Method
  target : List Char
  headers : Http.Headers
  body : Bytes
  deriving DecidableEq

namespace Errand

def authority (u : Url) : List Char := (u.server.map Url.Server.authority).getD []

def targetOf (m : Http.Method) (u : Url) : List Char :=
  if m = .connect then authority u
  else u.path.text ++ ((u.query.map ('?' :: ·)).getD [])

def addMissing (h : Http.Headers) (name : Http.HeaderName) (value : Bytes) : Http.Headers :=
  if h.contains name then h else h.append name value

def toUrl (m : Http.Method) (u : Url) (h : Http.Headers) (body : Bytes) : Errand where
  method := m
  target := targetOf m u
  headers :=
    addMissing (addMissing h .host (Bytes.ofText (authority u))) .accept (Bytes.ofString "*/*")
  body

/-- Whether a request can be made for a URL: it goes by HTTP and is a request target too. -/
def canGo (u : Url) : Bool := u.isHttp && (Http.Uri.parse (Bytes.ofText u.text)).isOk

end Errand

end MatrixGateway
