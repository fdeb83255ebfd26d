import MatrixGateway.Idna.Domain
import MatrixGateway.Net.Ip
import MatrixGateway.Url.Percent

/-!
# Hosts of URLs

A host is an address or a name. In schemes that name servers on the
network, a text is decoded and taken to ASCII, and a name whose last part
is a number must be a dotted address in one of its old spellings. In other
schemes a host is kept as it was written, with controls encoded.
-/

set_option autoImplicit false

namespace MatrixGateway

inductive UrlError where
  | noScheme
  | emptyHost
  | invalidDomain
  | invalidPort
  | invalidIpv4
  | invalidIpv6
  | invalidHostChar
  deriving DecidableEq

def UrlError.message : UrlError → String
  | .noScheme => "relative URL without a base"
  | .emptyHost => "empty host"
  | .invalidDomain => "invalid international domain name"
  | .invalidPort => "invalid port number"
  | .invalidIpv4 => "invalid IPv4 address"
  | .invalidIpv6 => "invalid IPv6 address"
  | .invalidHostChar => "invalid domain character"

namespace Url

inductive Host where
  | name (text : List Char)
  | v4 (a : Ipv4)
  | v6 (a : Ipv6)
  deriving DecidableEq

namespace Host

def text : Host → List Char
  | name s => s
  | v4 a => a.text.toList
  | v6 a => '[' :: a.text.toList ++ [']']

/-- A part of a dotted address: decimal, octal behind a zero, or hexadecimal
behind `0x`. -/
def number? (s : List Char) : Option Nat :=
  let read (base : Nat) (digits : List Char) : Option Nat := do
    let ds ← digits.mapM hexValue?
    if ds.all (· < base) then some (ds.foldl (fun n d => n * base + d) 0) else none
  match s with
  | [] => none
  | '0' :: 'x' :: r | '0' :: 'X' :: r => read 16 r
  | '0' :: c :: r => read 8 (c :: r)
  | s => read 10 s

def parts (s : List Char) : List (List Char) :=
  let ps := Text.pieces (· = '.') s
  if 1 < ps.length ∧ ps.getLast? = some [] then ps.dropLast else ps

def endsInNumber (s : List Char) : Bool :=
  match (parts s).getLast? with
  | some last => last ≠ [] && (last.all Char.isDigit || (number? last).isSome)
  | none => false

/-- Up to four numbers; the last one fills all bytes that are left. -/
def parseV4? (s : List Char) : Option Ipv4 := do
  let ns ← (parts s).mapM number?
  let front := ns.dropLast
  let last ← ns.getLast?
  let room := Nat.pow 256 (4 - front.length)
  if front.length < 4 ∧ front.all (· < 256) ∧ last < room then
    some ⟨(front.foldl (fun sum n => sum * 256 + n) 0 * room + last).toUInt32⟩
  else none

def parseV6 (s : List Char) : Except UrlError Host :=
  match s.getLast?, Ipv6.parse? s.dropLast with
  | some ']', some a => .ok (v6 a)
  | _, _ => .error .invalidIpv6

def parse (s : List Char) : Except UrlError Host := do
  match s with
  | '[' :: rest => parseV6 rest
  | s =>
    match (Bytes.text? (decode (Bytes.ofText s))).bind Idna.toAscii? with
    | none => .error .invalidDomain
    | some [] => .error .emptyHost
    | some domain =>
      if endsInNumber domain then
        match parseV4? domain with
        | some a => .ok (v4 a)
        | none => .error .invalidIpv4
      else .ok (name domain)

def isForbidden (c : Char) : Bool := "\x00\t\n\r #/:<>?@[\\]^|".toList.contains c

def parseOther (s : List Char) : Except UrlError Host :=
  match s with
  | '[' :: rest => parseV6 rest
  | s => if s.any isForbidden then .error .invalidHostChar else .ok (name (encode isControl s))

end Host

end Url

end MatrixGateway
