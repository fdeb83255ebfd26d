import MatrixGateway.Bytes
import MatrixGateway.Http.Authority

/-!
# Request targets

A target is a path with perhaps a query, an asterisk, an authority alone,
or a scheme with an authority and then a path. A fragment is dropped. The
path and the query are kept as they were written.
-/

set_option autoImplicit false

namespace MatrixGateway.Http

structure Uri where
  scheme : Option String := none
  authority : List Char := []
  rawPath : List Char := []
  query : Option (List Char) := none
  deriving DecidableEq

namespace Uri

def maxLength : Nat := 65534

def maxSchemeLength : Nat := 64

def isPathChar (c : Char) : Bool :=
  let n := c.toNat
  n = 0x21 || n = 0x22 || (0x24 ≤ n && n ≤ 0x3B) || n = 0x3D || (0x40 ≤ n && n ≤ 0x5F) ||
    (0x61 ≤ n && n ≤ 0x7E) || 0x80 ≤ n

def isQueryChar (c : Char) : Bool :=
  let n := c.toNat
  n = 0x21 || (0x24 ≤ n && n ≤ 0x3B) || n = 0x3D || (0x3F ≤ n && n ≤ 0x7E) || 0x80 ≤ n

def isSchemeChar (c : Char) : Bool := c.isAlphanum || c = '+' || c = '-' || c = '.' || c = '~'

/-- The text in front of `://` if it is a scheme, and the text after. The three
marks alone are no scheme. -/
def splitScheme? (s : List Char) : Except UriError (Option (List Char × List Char)) :=
  let name := s.takeWhile isSchemeChar
  let rest := s.drop name.length
  if "://".toList.isPrefixOf rest ∧ 3 < s.length then
    if maxSchemeLength < name.length then .error .schemeTooLong
    else .ok (some (name, rest.drop 3))
  else .ok none

def asText (s : List Char) : Except UriError (List Char) :=
  match Bytes.text? (s.map fun c => c.toNat.toUInt8) with
  | some t => .ok t
  | none => .error .invalidChar

def splitPath (s : List Char) : Except UriError (List Char × Option (List Char)) := do
  let path := s.takeWhile fun c => c ≠ '?' && c ≠ '#'
  if !path.all isPathChar then throw .invalidChar
  match s.drop path.length with
  | '?' :: rest =>
    let query := rest.takeWhile (· ≠ '#')
    if !query.all isQueryChar then throw .invalidChar
    return (← asText path, some (← asText query))
  | _ => return (← asText path, none)

def parse (raw : Bytes) : Except UriError Uri := do
  if maxLength < raw.length then throw .tooLong
  match raw.latin with
  | [] => throw .empty
  | ['/'] => return { rawPath := ['/'] }
  | ['*'] => return { rawPath := ['*'] }
  | [c] => return { authority := ← Authority.parse [c] }
  | '/' :: s =>
    let (path, query) ← splitPath ('/' :: s)
    return { rawPath := path, query }
  | s =>
    match ← splitScheme? s with
    | none =>
      let (authority, rest) ← Authority.split s
      if rest ≠ [] then throw .invalidFormat
      return { authority }
    | some (scheme, rest) =>
      if rest = [] then throw .empty
      let (authority, rest) ← Authority.split rest
      if authority = [] then throw .invalidFormat
      let (path, query) ← splitPath rest
      return { scheme := some (String.ofList scheme), authority, rawPath := path, query }

/-- Empty only for an authority alone. -/
def path (u : Uri) : List Char :=
  if u.rawPath = [] ∧ u.scheme.isSome then ['/'] else u.rawPath

def pathAndQuery (u : Uri) : List Char :=
  match u.query with
  | some q => u.rawPath ++ '?' :: q
  | none => if u.rawPath = [] then ['/'] else u.rawPath

end Uri

end MatrixGateway.Http
