import MatrixGateway.Bytes

/-!
# Percent-encoding

A character is written as it is, or as a percent sign and two digits for
each of its bytes. Each part of a URL has its own set of characters to
encode; all hold the controls and everything beyond ASCII.
-/

set_option autoImplicit false

namespace MatrixGateway.Url

def isControl (c : Char) : Bool := c.toNat < 32 || 127 ≤ c.toNat

def inFragmentSet (c : Char) : Bool := isControl c || " \"<>`".toList.contains c

def inPathSet (c : Char) : Bool := inFragmentSet c || "#?\x7b\x7d".toList.contains c

def inUserSet (c : Char) : Bool := inPathSet c || "/:;=@[\\]^|".toList.contains c

def inQuerySet (c : Char) : Bool := isControl c || " \"#<>".toList.contains c

def inSpecialQuerySet (c : Char) : Bool := inQuerySet c || c = '\''

def hexDigit (n : Nat) : Char := if n < 10 then Char.ofNat (48 + n) else Char.ofNat (55 + n)

def encodeByte (b : UInt8) : List Char := ['%', hexDigit (b.toNat / 16), hexDigit (b.toNat % 16)]

def encodeChar (set : Char → Bool) (c : Char) : List Char :=
  if set c then (String.utf8EncodeChar c).flatMap encodeByte else [c]

def encode (set : Char → Bool) (s : List Char) : List Char := s.flatMap (encodeChar set)

def hexValue? (c : Char) : Option Nat :=
  if c.isDigit then some (c.toNat - 48)
  else if 'a' ≤ c ∧ c ≤ 'f' then some (c.toNat - 87)
  else if 'A' ≤ c ∧ c ≤ 'F' then some (c.toNat - 55)
  else none

/-- A percent sign without two digits behind it stands for itself. -/
def decode : Bytes → Bytes
  | [] => []
  | [a] => [a]
  | [a, b] => [a, b]
  | a :: b :: c :: r =>
    match hexValue? (Char.ofNat b.toNat), hexValue? (Char.ofNat c.toNat) with
    | some h, some l =>
      if a = 37 then (h * 16 + l).toUInt8 :: decode r else a :: decode (b :: c :: r)
    | _, _ => a :: decode (b :: c :: r)

theorem encode_eq_self (set : Char → Bool) (s : List Char) (h : ∀ c ∈ s, set c = false) :
    encode set s = s := by
  induction s with
  | nil => rfl
  | cons c s ih =>
    have hc := h c (by simp)
    have hs := ih fun d hd => h d (by simp [hd])
    simp only [encode, List.flatMap_cons] at *
    simp [encodeChar, hc, hs]

end MatrixGateway.Url
