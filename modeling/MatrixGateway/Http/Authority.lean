import MatrixGateway.Text.Numeral
import MatrixGateway.Text.Pieces

/-!
# Authorities

The part of a request target that names a server: perhaps a user, a host
that may stand in brackets, perhaps a port. One scan checks the characters
and where colons, brackets and percent signs stand.
-/

set_option autoImplicit false

namespace MatrixGateway.Http

inductive UriError where
  | invalidChar
  | invalidAuthority
  | invalidFormat
  | tooLong
  | empty
  | schemeTooLong
  deriving DecidableEq

def UriError.message : UriError → String
  | .invalidChar => "invalid uri character"
  | .invalidAuthority => "invalid authority"
  | .invalidFormat => "invalid format"
  | .tooLong => "uri too long"
  | .empty => "empty string"
  | .schemeTooLong => "scheme too long"

namespace Authority

/-- What a scan has seen since the last part that it may forget. -/
structure Scan where
  colons : Nat := 0
  opened : Bool := false
  closed : Bool := false
  percent : Bool := false
  atLast : Bool := false

def isPlain (c : Char) : Bool := c.isAlphanum || "!$&'()*+,-.;=_~".toList.contains c

def isEnd (c : Char) : Bool := c = '/' || c = '?' || c = '#'

/-- Colons in an address of eight groups with a port. -/
def maxColons : Nat := 8

def step (s : Scan) (c : Char) : Except UriError Scan :=
  let s := { s with atLast := false }
  match c with
  | ':' =>
    if maxColons ≤ s.colons then .error .invalidAuthority
    else .ok { s with colons := s.colons + 1 }
  | '[' => if s.percent || s.opened then .error .invalidAuthority else .ok { s with opened := true }
  | ']' =>
    if !s.opened || s.closed then .error .invalidAuthority
    else .ok { s with closed := true, colons := 0, percent := false }
  | '@' => .ok { s with colons := 0, percent := false, atLast := true }
  | '%' => .ok { s with percent := true }
  | c => if isPlain c then .ok s else .error .invalidChar

def isComplete (s : Scan) : Bool :=
  s.opened == s.closed && s.colons ≤ 1 && !s.atLast && !s.percent

def split (s : List Char) : Except UriError (List Char × List Char) := do
  let front := s.takeWhile (!isEnd ·)
  let scan ← front.foldlM step {}
  if isComplete scan then .ok (front, s.drop front.length) else .error .invalidAuthority

def parse (s : List Char) : Except UriError (List Char) := do
  if s = [] then throw .empty
  let (front, rest) ← split s
  if rest = [] then .ok front else .error .invalidChar

def server (authority : List Char) : List Char :=
  match Text.cutLast? '@' authority with
  | some (_, server) => server
  | none => authority

def host (authority : List Char) : List Char :=
  match server authority with
  | '[' :: rest => '[' :: rest.takeWhile (· ≠ ']') ++ [']']
  | server => server.takeWhile (· ≠ ':')

def port? (authority : List Char) : Option UInt16 :=
  (Text.cutLast? ':' authority).bind fun (_, port) => Numeral.port? port

end Authority

end MatrixGateway.Http
