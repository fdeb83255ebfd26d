/-!
# Bytes and text

Everything on the wire is a list of bytes. Text goes to bytes by UTF-8;
bytes come back as text only when they are well-formed UTF-8.
-/

set_option autoImplicit false

namespace MatrixGateway

abbrev Bytes := List UInt8

namespace Bytes

def ofText (s : List Char) : Bytes := s.flatMap String.utf8EncodeChar

def ofString (s : String) : Bytes := ofText s.toList

def latin (bs : Bytes) : List Char := bs.map fun b => Char.ofNat b.toNat

def follow? (b : UInt8) : Option Nat :=
  if 0x80 ≤ b ∧ b < 0xC0 then some (b.toNat - 0x80) else none

def scalar? (least n : Nat) : Option Char :=
  if least ≤ n ∧ n.isValidChar then some (Char.ofNat n) else none

/-- The text that the bytes encode, if they are well-formed UTF-8: shortest
form only, no surrogates. -/
def text? : Bytes → Option (List Char)
  | [] => some []
  | a :: r =>
    if a < 0x80 then (text? r).map (Char.ofNat a.toNat :: ·)
    else if a < 0xC0 then none
    else if a < 0xE0 then
      match r with
      | b :: r => do
        let b ← follow? b
        let c ← scalar? 0x80 ((a.toNat - 0xC0) * 64 + b)
        (text? r).map (c :: ·)
      | _ => none
    else if a < 0xF0 then
      match r with
      | b :: c :: r => do
        let b ← follow? b
        let c ← follow? c
        let d ← scalar? 0x800 (((a.toNat - 0xE0) * 64 + b) * 64 + c)
        (text? r).map (d :: ·)
      | _ => none
    else if a < 0xF8 then
      match r with
      | b :: c :: d :: r => do
        let b ← follow? b
        let c ← follow? c
        let d ← follow? d
        let e ← scalar? 0x10000 ((((a.toNat - 0xF0) * 64 + b) * 64 + c) * 64 + d)
        (text? r).map (e :: ·)
      | _ => none
    else none

end Bytes

end MatrixGateway
