import MatrixGateway.Http.Method
import MatrixGateway.Text.Blank
import MatrixGateway.Text.Pieces

/-!
# Header fields

A field has a name, which is a token in lower case of limited length, and a
value, which is any bytes but controls. Fields with one name keep their order. A value can
be read as text only if it is printable ASCII.
-/

set_option autoImplicit false

namespace MatrixGateway.Http

structure HeaderName where
  text : String
  deriving DecidableEq

namespace HeaderName

def maxLength : Nat := 65535

def ofText? (name : List Char) : Option HeaderName :=
  if name ≠ [] ∧ name.length ≤ maxLength ∧ name.all isTokenChar then
    some ⟨String.ofList (Text.lower name)⟩
  else none

def ofBytes? (raw : Bytes) : Option HeaderName := ofText? raw.latin

def accept : HeaderName := ⟨"accept"⟩
def authorization : HeaderName := ⟨"authorization"⟩
def connection : HeaderName := ⟨"connection"⟩
def contentLength : HeaderName := ⟨"content-length"⟩
def contentType : HeaderName := ⟨"content-type"⟩
def host : HeaderName := ⟨"host"⟩
def transferEncoding : HeaderName := ⟨"transfer-encoding"⟩
def forwardedFor : HeaderName := ⟨"x-forwarded-for"⟩
def requestId : HeaderName := ⟨"x-request-id"⟩

end HeaderName

def isFieldByte (b : UInt8) : Bool := b = 9 || (32 ≤ b && b ≠ 127)

def isReadableByte (b : UInt8) : Bool := b = 9 || (32 ≤ b && b < 127)

def readable? (value : Bytes) : Option String :=
  if value.all isReadableByte then some (String.ofList value.latin) else none

inductive HeaderError where
  | invalidName
  | invalidValue
  deriving DecidableEq

def HeaderError.message : HeaderError → String
  | .invalidName => "invalid HTTP header name"
  | .invalidValue => "failed to parse header value"

structure Headers where
  fields : List (HeaderName × Bytes) := []
  deriving DecidableEq

namespace Headers

def get? (h : Headers) (n : HeaderName) : Option Bytes :=
  (h.fields.find? (·.1 = n)).map (·.2)

def getAll (h : Headers) (n : HeaderName) : List Bytes :=
  (h.fields.filter (·.1 = n)).map (·.2)

def contains (h : Headers) (n : HeaderName) : Bool := h.fields.any (·.1 = n)

def remove (h : Headers) (n : HeaderName) : Headers := ⟨h.fields.filter (·.1 ≠ n)⟩

def append (h : Headers) (n : HeaderName) (value : Bytes) : Headers := ⟨h.fields ++ [(n, value)]⟩

def insert (h : Headers) (n : HeaderName) (value : Bytes) : Headers := (h.remove n).append n value

def ofRaw (fields : List (Bytes × Bytes)) : Except HeaderError Headers :=
  fields.foldlM (fun h (name, value) =>
    match HeaderName.ofBytes? name with
    | none => .error .invalidName
    | some n => if value.all isFieldByte then .ok (h.append n value) else .error .invalidValue) {}

/-! ## Fields that belong to one connection -/

def hopByHop : List HeaderName :=
  [.connection, ⟨"keep-alive"⟩, ⟨"proxy-authenticate"⟩, ⟨"proxy-authorization"⟩, ⟨"te"⟩,
    ⟨"trailer"⟩, .transferEncoding, ⟨"upgrade"⟩]

/-- The names listed by one value; elements that are no names are passed over. -/
def listed (value : Bytes) : List HeaderName :=
  match readable? value with
  | none => []
  | some text =>
    (Text.pieces (· = ',') text.toList).filterMap fun e => HeaderName.ofText? (Text.trim e)

def namedByConnection (h : Headers) : List HeaderName :=
  (h.getAll .connection).flatMap listed

def stripHopByHop (h : Headers) : Headers :=
  (h.namedByConnection ++ hopByHop).foldl remove h

/-! ## What the gateway reads -/

def bearerMark : List Char := "Bearer ".toList

/-- The access token: the first authorization, less one leading scheme word.
Empty when there is none or it cannot be read. -/
def token (h : Headers) : String :=
  let value := (((h.get? .authorization).bind readable?).getD "").toList
  String.ofList (if bearerMark.isPrefixOf value then value.drop bearerMark.length else value)

def logId (h : Headers) : String := ((h.get? .requestId).bind readable?).getD "unknown"

end Headers

end MatrixGateway.Http
