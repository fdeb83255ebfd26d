import MatrixGateway.Bytes

/-!
# Request names

A request that brings no name gets one of a hundred and twenty-two random
bits, written as five groups of hexadecimal digits.
-/

set_option autoImplicit false

namespace MatrixGateway.RequestId

def digit (n : Nat) : Char := if n < 10 then Char.ofNat (48 + n) else Char.ofNat (87 + n)

def digits (n : Nat) : (count : Nat) → List Char
  | 0 => []
  | count + 1 => digits (n / 16) count ++ [digit (n % 16)]

/-- The third group begins with the version, the fourth with two bits that are fixed. -/
def fresh (random : Nat) : Bytes :=
  Bytes.ofText (digits (random >>> 90) 8 ++ '-' :: digits (random >>> 74) 4 ++
    '-' :: '4' :: digits (random >>> 62) 3 ++
    '-' :: digit (8 + (random >>> 60) % 4) :: digits (random >>> 48) 3 ++ '-' :: digits random 12)

end MatrixGateway.RequestId
