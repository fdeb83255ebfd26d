/-!
# Decimal numerals

A numeral is an optional plus sign and one or more digits, read from the
left against a limit. The first thing that goes wrong is reported: a
character that is no digit, or a value past the limit.
-/

set_option autoImplicit false

namespace MatrixGateway

inductive NumeralError where
  | empty
  | invalidDigit
  | tooLarge
  deriving DecidableEq

def NumeralError.message : NumeralError → String
  | .empty => "cannot parse integer from empty string"
  | .invalidDigit => "invalid digit found in string"
  | .tooLarge => "number too large to fit in target type"

namespace Numeral

/-- Reads digits after `value`, never passing `limit`. -/
def digits (limit : Nat) (value : Nat) : List Char → Except NumeralError Nat
  | [] => .ok value
  | c :: cs =>
    if c.isDigit then
      let value := value * 10 + (c.toNat - 48)
      if value ≤ limit then digits limit value cs else .error .tooLarge
    else .error .invalidDigit

def read (limit : Nat) : List Char → Except NumeralError Nat
  | [] => .error .empty
  | ['+'] => .error .invalidDigit
  | '+' :: cs => digits limit 0 cs
  | cs => digits limit 0 cs

def read? (limit : Nat) (s : List Char) : Option Nat := (read limit s).toOption

def port? (s : List Char) : Option UInt16 := (read? 65535 s).map Nat.toUInt16

end Numeral

end MatrixGateway
