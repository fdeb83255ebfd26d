/-!
# Real numbers of 64 bits

A finite number is a sign and `mantissa * 2 ^ exponent` with at most 53 bits
of mantissa. A decimal numeral is rounded to the nearest such number, ties
to the even mantissa; a number is written with the fewest digits that read
back as it, never with an exponent.
-/

set_option autoImplicit false

namespace MatrixGateway.Toml

inductive Real where
  | finite (negative : Bool) (mantissa : Nat) (exponent : Int)
  | infinite (negative : Bool)
  | notANumber
  deriving DecidableEq

namespace Real

def lowestExponent : Int := -1074
def highestExponent : Int := 971

def nearest (num den : Nat) : Nat :=
  let q := num / den
  let twice := 2 * (num % den)
  if twice < den then q else if den < twice then q + 1 else q + q % 2

def scaled (num den : Nat) (exponent : Int) : Nat × Nat :=
  if 0 ≤ exponent then (num, den * Nat.pow 2 exponent.toNat)
  else (num * Nat.pow 2 (-exponent).toNat, den)

def ofFraction (negative : Bool) (num den : Nat) : Real :=
  let guess : Int := (num.log2 : Int) - den.log2 - 53
  let fits (e : Int) : Bool := let (n, d) := scaled num den e; n / d < Nat.pow 2 53
  let exponent := max lowestExponent
    (if fits guess then guess else if fits (guess + 1) then guess + 1 else guess + 2)
  let (n, d) := scaled num den exponent
  let m := nearest n d
  let (m, exponent) := if m = Nat.pow 2 53 then (Nat.pow 2 52, exponent + 1) else (m, exponent)
  if highestExponent < exponent then .infinite negative
  else .finite negative m exponent

def value (digits : List Char) : Nat := digits.foldl (fun n c => n * 10 + (c.toNat - 48)) 0

/-- The number of a numeral `digits * 10 ^ power`. Powers far beyond the range
are not computed. -/
def ofDecimal (negative : Bool) (digits : List Char) (power : Int) : Real :=
  let n := value digits
  let size : Int := (Nat.toDigits 10 n).length + power
  if n = 0 ∨ size < -400 then .finite negative 0 0
  else if 400 < size then .infinite negative
  else if 0 ≤ power then ofFraction negative (n * Nat.pow 10 power.toNat) 1
  else ofFraction negative n (Nat.pow 10 (-power).toNat)

def leading (num den : Nat) : Int :=
  if den ≤ num then (Nat.toDigits 10 (num / den)).length - 1
  else
    Int.negSucc (((List.range 400).find? fun zeros => den ≤ num * Nat.pow 10 (zeros + 1)).getD 400)

/-- Whether `d * 10 ^ k` reads back: it lies between the middles to the two
neighbours, which count when the mantissa is even. All three are over `den`. -/
def readsBack (even : Bool) (low high den d : Nat) (k : Int) : Bool :=
  let (a, b) :=
    if 0 ≤ k then (d * Nat.pow 10 k.toNat * den, 1) else (d * den, Nat.pow 10 (-k).toNat)
  if even then low * b ≤ a && a ≤ high * b else low * b < a && a < high * b

def shortest (mantissa : Nat) (exponent : Int) : Nat × Int :=
  let (unit, den) := scaled 1 1 (2 - exponent)
  let num := 4 * mantissa * unit
  let below := if mantissa = Nat.pow 2 52 ∧ lowestExponent < exponent then 1 else 2
  let low := (4 * mantissa - below) * unit
  let high := (4 * mantissa + 2) * unit
  let even := mantissa % 2 = 0
  let written (count : Nat) : Option (Nat × Int) :=
    let k := leading num den + 1 - count
    let (a, b) :=
      if 0 ≤ k then (num, den * Nat.pow 10 k.toNat) else (num * Nat.pow 10 (-k).toNat, den)
    let d := a / b
    let nearer := if 2 * (a % b) < b then [d, d + 1] else [d + 1, d]
    (nearer.find? fun d => readsBack even low high den d k).map fun d =>
      if d = Nat.pow 10 count then (1, k + count) else (d, k)
  ((List.range 17).findSome? fun i => written (i + 1)).getD (0, 0)

def positional (d : Nat) (k : Int) : List Char :=
  let ds := Nat.toDigits 10 d
  if 0 ≤ k then ds ++ List.replicate k.toNat '0' ++ ['.', '0']
  else
    let places := (-k).toNat
    let ds := List.replicate (places + 1 - ds.length) '0' ++ ds
    ds.take (ds.length - places) ++ '.' :: ds.drop (ds.length - places)

def text : Real → String
  | notANumber => "NaN"
  | infinite negative => if negative then "-inf" else "inf"
  | finite negative m e =>
    let (d, k) := if m = 0 then (0, 0) else shortest m e
    String.ofList ((if negative then ['-'] else []) ++ positional d k)

end Real

end MatrixGateway.Toml
