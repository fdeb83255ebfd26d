import MatrixGateway.Http.Headers
import MatrixGateway.Text.Numeral

/-!
# Answers on the wire

A server writes an answer as a status line, header lines, an empty line and
a body. The body ends after as many bytes as were announced, or with the
last of its chunks, or when the connection closes; an answer that is cut
short before that is incomplete, and one whose head cannot be read is none.
The reader's buffer for heads is limited, but it is held against its limit
only when it was looked at and no whole head was found in it.
-/

set_option autoImplicit false

namespace MatrixGateway.Http.Wire

structure Reply where
  status : Nat
  headers : Headers
  body : Bytes
  isComplete : Bool
  deriving DecidableEq

/-- What a server writes before it closes, and how many bytes of it were there at each look but
the last one, which finds all. -/
structure Arrival where
  bytes : Bytes := []
  looks : List Nat := []
  deriving DecidableEq

instance : Coe Bytes Arrival := ⟨fun bytes => { bytes }⟩

def cr : UInt8 := 13
def lf : UInt8 := 10

/-- A line, and what follows it. A carriage return stands only in front of the line end. -/
def line? : Bytes → Option (Bytes × Bytes)
  | [] => none
  | b :: r =>
    if b = lf then some ([], r)
    else if b = cr then
      match r with
      | c :: r => if c = lf then some ([], r) else none
      | [] => none
    else (line? r).map fun (l, rest) => (b :: l, rest)

def isBlankByte (b : UInt8) : Bool := b = 32 || b = 9

def trimBytes (bs : Bytes) : Bytes :=
  ((bs.dropWhile isBlankByte).reverse.dropWhile isBlankByte).reverse

def digit? (b : UInt8) : Option Nat := if 48 ≤ b ∧ b ≤ 57 then some (b.toNat - 48) else none

def hexDigit? (b : UInt8) : Option Nat :=
  if 48 ≤ b ∧ b ≤ 57 then some (b.toNat - 48)
  else if 97 ≤ b ∧ b ≤ 102 then some (b.toNat - 87)
  else if 65 ≤ b ∧ b ≤ 70 then some (b.toNat - 55)
  else none

def statusLine? (l : Bytes) : Option (Nat × Nat) :=
  match l with
  | 72 :: 84 :: 84 :: 80 :: 47 :: 49 :: 46 :: v :: 32 :: a :: b :: c :: rest => do
    let version ← digit? v
    let status := (← digit? a) * 100 + (← digit? b) * 10 + (← digit? c)
    let reasonOk : Bool := match rest with
      | [] => true
      | r :: reason => r = 32 && reason.all isFieldByte
    if version ≤ 1 ∧ 100 ≤ status ∧ reasonOk then some (version, status) else none
  | _ => none

def rawField? (l : Bytes) : Option (Bytes × Bytes) :=
  let name : Bytes := l.takeWhile (· ≠ 58)
  match l.dropWhile (· ≠ 58) with
  | _ :: value =>
    if (name ≠ [] ∧ name.latin.all isTokenChar) ∧ value.all isFieldByte then
      some (name, trimBytes value)
    else none
  | [] => none

def field? (l : Bytes) : Option (HeaderName × Bytes) := do
  let (name, value) ← rawField? l
  return (← HeaderName.ofBytes? name, value)

def maxFields : Nat := 100

/-- Bytes with which the buffer for heads is full. -/
def maxBuffer : Nat := 417792

/-- Whether a look found the buffer full while a head of that length was not all there. -/
def overruns (looks : List Nat) (length : Nat) : Bool :=
  looks.any fun n => maxBuffer ≤ n && n < length

def fields? : (room : Nat) → Bytes → Option (Headers × Bytes)
  | room, s => do
    let (l, r) ← line? s
    if l = [] then return ({}, r)
    match room with
    | 0 => none
    | room + 1 =>
      let (name, value) ← field? l
      let (h, r) ← fields? room r
      return (⟨(name, value) :: h.fields⟩, r)

structure Head where
  version : Nat
  status : Nat
  headers : Headers
  deriving DecidableEq

/-- Empty lines in front of the status line do not count. -/
def head? : (fuel : Nat) → Bytes → Option (Head × Bytes)
  | 0, _ => none
  | fuel + 1, s => do
    let (l, r) ← line? s
    if l = [] then head? fuel r
    else
      let (version, status) ← statusLine? l
      let (headers, r) ← fields? maxFields r
      return (⟨version, status, headers⟩, r)

/-! ## Bodies -/

inductive Framing where
  | length (n : Nat)
  | chunks
  | close
  deriving DecidableEq

/-- One number of 64 bits that all values agree on; a value may list it several times. -/
def announcedLength? (values : List Bytes) : Option Nat := do
  let texts ← values.mapM readable?
  let numbers ← (texts.flatMap fun v => Text.pieces (· = ',') v.toList).mapM fun t =>
    match Text.trim t with
    | [] => none
    | digits => (Numeral.digits (UInt64.size - 1) 0 digits).toOption
  match numbers with
  | n :: rest => if rest.all (· = n) then some n else none
  | [] => none

def endsChunked (values : List Bytes) : Bool :=
  match (values.flatMap fun v => Text.pieces (· = ',') v.latin).getLast? with
  | some last => Text.lower (Text.trim last) = "chunked".toList
  | none => false

def maxLength : Nat := UInt64.size - 3

/-- Some answers have no body whatever their head says. -/
def framing? (m : Method) (h : Head) : Option Framing :=
  if h.status = 101 ∨ h.status = 204 ∨ h.status = 304 ∨ m = .head ∨
      (m = .connect ∧ 200 ≤ h.status ∧ h.status < 300) then some (.length 0)
  else if h.headers.contains .transferEncoding then
    if h.version = 0 then none
    else if endsChunked (h.headers.getAll .transferEncoding) then some .chunks
    else some .close
  else if h.headers.contains .contentLength then
    (announcedLength? (h.headers.getAll .contentLength)).bind fun n =>
      if n ≤ maxLength then some (.length n) else none
  else some .close

def chunkSize? (l : Bytes) : Option Nat := do
  let digits := (l.takeWhile (· ≠ 59))
  let digits := (digits.reverse.dropWhile isBlankByte).reverse
  if digits = [] then none
  else
    let size := (← digits.mapM hexDigit?).foldl (fun n d => n * 16 + d) 0
    if size < UInt64.size then some size else none

def maxExtensions : Nat := 16384

def maxTrailer : Nat := 16384

def extension (l : Bytes) : Nat := (l.dropWhile (· ≠ 59)).length - 1

def afterTrailer? (s : Bytes) : Option Bytes := do
  let (trailer, r) ← fields? maxFields s
  if trailer.fields = [] ∨ s.length - r.length < maxTrailer then some r else none

/-- The bytes of all chunks, and what follows the last one if it was reached. Extensions of
`passed` bytes came before. -/
def readChunks : (fuel : Nat) → (passed : Nat) → Bytes → Bytes × Option Bytes
  | 0, _, _ => ([], none)
  | fuel + 1, passed, s =>
    match line? s with
    | none => ([], none)
    | some (l, r) =>
      let passed := passed + extension l
      if maxExtensions ≤ passed then ([], none)
      else
        match chunkSize? l with
        | none => ([], none)
        | some 0 => ([], afterTrailer? r)
        | some n =>
          let piece := r.take n
          if piece.length < n then (piece, none)
          else
            match line? (r.drop n) with
            | some ([], rest) =>
              let (more, rest) := readChunks fuel passed rest
              (piece ++ more, rest)
            | _ => (piece, none)

def readBody (framing : Framing) (s : Bytes) : Bytes × Option Bytes :=
  match framing with
  | .length n => (s.take n, if n ≤ s.length then some (s.drop n) else none)
  | .chunks => readChunks (s.length + 1) 0 s
  | .close => (s, some [])

/-- The final answer to a request of that method; those in between are passed over, and their
heads are taken out of the buffer. -/
def read? (m : Method) : (fuel : Nat) → (looks : List Nat) → Bytes → Option Reply
  | 0, _, _ => none
  | fuel + 1, looks, s => do
    let (h, r) ← head? (s.length + 1) s
    let length := s.length - r.length
    if overruns looks length then none
    else if h.status < 200 ∧ h.status ≠ 101 then read? m fuel (looks.map (· - length)) r
    else
      let (body, rest) := readBody (← framing? m h) r
      return ⟨h.status, h.headers, body, rest.isSome⟩

def readReply? (m : Method) (a : Arrival) : Option Reply :=
  read? m (a.bytes.length + 1) a.looks a.bytes

/-! ## Writing -/

def eol : Bytes := [cr, lf]

def writeHead (status : Nat) (h : Headers) : Bytes :=
  Bytes.ofString ("HTTP/1.1 " ++ toString status ++ " ") ++ eol ++
    h.fields.flatMap (fun (name, value) =>
      Bytes.ofString (name.text ++ ": ") ++ value ++ eol) ++ eol

def writeChunk (bytes : Bytes) : Bytes :=
  Bytes.ofText (Nat.toDigits 16 bytes.length) ++ eol ++ bytes ++ eol

def writeChunks (body : Bytes) : Bytes :=
  (if body = [] then [] else writeChunk body) ++ writeChunk []

end MatrixGateway.Http.Wire
