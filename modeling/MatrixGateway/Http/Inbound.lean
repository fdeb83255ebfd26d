import MatrixGateway.Http.Exchange
import MatrixGateway.Http.Wire

/-!
# Requests on the wire

A client writes a request as a request line, header lines, an empty line and
a body. A head that breaks the rules is refused with a status and ends the
connection; so does a request that does not ask for more, once it is
answered. What is known of the connection decides how an answer is framed.
-/

set_option autoImplicit false

namespace MatrixGateway.Http

structure Link where
  version : Nat
  staysOpen : Bool
  deriving DecidableEq

namespace Inbound

inductive Reading where
  | request (r : Request) (link : Link) (rest : Bytes)
  | refused (status : Nat)
  | unfinished
  deriving DecidableEq

/-- The lines up to the empty one, and what follows that. Empty lines in front do not count. -/
def headLines? : (fuel : Nat) → (isFirst : Bool) → Bytes → Option (List Bytes × Bytes)
  | 0, _, _ => none
  | fuel + 1, isFirst, s =>
    let l := s.takeWhile (· ≠ Wire.lf)
    match s.drop l.length with
    | [] => none
    | _ :: r =>
      let l := if l.getLast? = some Wire.cr then l.dropLast else l
      if l ≠ [] then (headLines? fuel false r).map fun (ls, rest) => (l :: ls, rest)
      else if isFirst then headLines? fuel true r
      else some ([], r)

def space : UInt8 := 32

def version? (l : Bytes) : Option Nat :=
  if l = Bytes.ofString "HTTP/1.1" then some 1
  else if l = Bytes.ofString "HTTP/1.0" then some 0
  else none

def requestLine (l : Bytes) : Except Nat (Method × Uri × Nat) :=
  let name := l.takeWhile (· ≠ space)
  let rest := (l.drop name.length).drop 1
  let target := rest.takeWhile (· ≠ space)
  match Method.ofBytes? name, version? ((rest.drop target.length).drop 1) with
  | some m, some v =>
    match Uri.parse target with
    | .ok uri => .ok (m, uri, v)
    | .error .tooLong => .error 414
    | .error _ => .error 400
  | _, _ => .error 400

/-- A name that is too long is found when all lines have been read. -/
def fields (room : Nat) : List Bytes → Except Nat Headers
  | [] => .ok {}
  | l :: ls =>
    match room with
    | 0 => .error 431
    | room + 1 =>
      match Wire.rawField? l with
      | none => .error 400
      | some (name, value) => do
        let h ← fields room ls
        match HeaderName.ofBytes? name with
        | none => .error 431
        | some name => .ok ⟨(name, value) :: h.fields⟩

def length? (values : List Bytes) : Option Nat := do
  let numbers ← values.mapM fun v =>
    if v ≠ [] ∧ (v.mapM Wire.digit?).isSome then Wire.announcedLength? [v] else none
  match numbers with
  | [] => some 0
  | n :: rest => if rest.all (· = n) then some n else none

/-- How a body is framed; chunks must be the last coding, and need version 1. -/
def framing? (version : Nat) (h : Headers) : Option Wire.Framing :=
  if h.contains .transferEncoding then
    if version = 1 ∧ Wire.endsChunked (h.getAll .transferEncoding) then some .chunks else none
  else (length? (h.getAll .contentLength)).map .length

def asksFor (word : String) (h : Headers) : Bool :=
  (h.getAll .connection).any fun v =>
    (Text.pieces (· = ',') v.latin).any fun e => Text.lower (Text.trim e) = word.toList

def linkOf (version : Nat) (h : Headers) : Link :=
  ⟨version, if version = 1 then !asksFor "close" h else asksFor "keep-alive" h⟩

/-- A length is known before the bytes are; chunks may break off. -/
def bodyOf (framing : Wire.Framing) (s : Bytes) : Body × Bytes :=
  match framing, Wire.readBody framing s with
  | .chunks, (bytes, some rest) => (.stream [.data bytes], rest)
  | _, (bytes, some rest) => (.whole bytes, rest)
  | _, (bytes, none) => (.stream [.data bytes, .breakOff], [])

def read (client : Option Ip) (s : Bytes) : Reading :=
  match headLines? (s.length + 1) true s with
  | none => .unfinished
  | some ([], _) => .unfinished
  | some (line :: lines, rest) =>
    match requestLine line with
    | .error status => .refused status
    | .ok (method, uri, version) =>
      match fields Wire.maxFields lines with
      | .error status => .refused status
      | .ok headers =>
        match framing? version headers with
        | none => .refused 400
        | some framing =>
          let (body, rest) := bodyOf framing rest
          .request { method, uri, headers, body, client } (linkOf version headers) rest

end Inbound

namespace Answer

def bare (status : Nat) : Answer where
  status
  headers := ⟨[(.connection, Bytes.ofString "close"), (.contentLength, Bytes.ofString "0")]⟩

def isLast (a : Answer) (link : Link) : Bool :=
  !link.staysOpen || a.status = 101 || a.status < 200 || (link.version = 0 && a.body.length?.isNone)

/-- The answer as it is written for a connection. What is no final answer is
an error here, and an answer without content tells no length. -/
def linked (a : Answer) (link : Link) : Answer :=
  let last := a.isLast link
  let a := if a.status < 200 ∧ a.status ≠ 101 then { status := 500 : Answer }.sized else a
  let a := if a.status = 204 then { a with headers := a.headers.remove .contentLength } else a
  if link.version = 1 ∧ last then
    { a with headers := a.headers.insert .connection (Bytes.ofString "close") }
  else if link.version = 0 ∧ !last then
    { a with headers := a.headers.insert .connection (Bytes.ofString "keep-alive") }
  else a

end Answer

end MatrixGateway.Http
