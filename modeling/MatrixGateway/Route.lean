import MatrixGateway.Text.Pieces

/-!
# Routes

A request goes to the media origin or over the transport. Its path alone
decides: media endpoints are recognised anywhere in it, unless some segment
would be resolved away by a reader of the path.
-/

set_option autoImplicit false

namespace MatrixGateway

inductive Route where
  | media
  | api
  deriving DecidableEq

namespace Route

def name : Route → String
  | .media => "media"
  | .api => "api"

def mediaMarks : List (List Char) :=
  ["/_matrix/client/v1/media".toList, "/_matrix/federation/v1/media".toList]

def undot : List Char → List Char
  | '%' :: '2' :: 'e' :: cs => '.' :: undot cs
  | c :: cs => c :: undot cs
  | [] => []

/-- One or two dots, as they are or percent-encoded in either case. -/
def isDotSegment (s : List Char) : Bool :=
  let s := undot (Text.lower s)
  s = ['.'] || s = ['.', '.']

def hasDotSegment (path : List Char) : Bool :=
  (Text.pieces (fun c => c = '/' || c = '\\') path).any isDotSegment

def classify (path : List Char) : Route :=
  if mediaMarks.any (Text.has · path) && !hasDotSegment path then .media else .api

end Route

end MatrixGateway
