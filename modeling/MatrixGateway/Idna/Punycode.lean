import MatrixGateway.Text.Pieces

/-!
# Labels in ASCII

A label with other characters is written in ASCII as its ASCII characters,
a hyphen, and a row of numbers: for each other character, by rising code
point, how far it stands from the one before, counted over all code points
and places. Digits of a number have base 36; a digit below a threshold is
the last one, and thresholds move with the size of the numbers.
-/

set_option autoImplicit false

namespace MatrixGateway.Idna.Punycode

def digitChar (d : Nat) : Char := if d < 26 then Char.ofNat (97 + d) else Char.ofNat (22 + d)

def digit? (c : Char) : Option Nat :=
  if 'a' ≤ c ∧ c ≤ 'z' then some (c.toNat - 97)
  else if 'A' ≤ c ∧ c ≤ 'Z' then some (c.toNat - 65)
  else if c.isDigit then some (c.toNat - 22)
  else none

/-- Between 1 and 26; `k` is 36 for the first digit and grows by 36. -/
def threshold (k bias : Nat) : Nat := min 26 (max 1 (k - bias))

theorem threshold_bounds (k bias : Nat) : 1 ≤ threshold k bias ∧ threshold k bias ≤ 26 := by
  unfold threshold; omega

def settle (delta k : Nat) : Nat :=
  if 455 < delta then settle (delta / 35) (k + 36) else k + 36 * delta / (delta + 38)
termination_by delta
decreasing_by omega

def adapt (delta count : Nat) (isFirst : Bool) : Nat :=
  let delta := if isFirst then delta / 700 else delta / 2
  settle (delta + delta / count) 0

def digits (bias k q : Nat) : List Char :=
  if q < threshold k bias then [digitChar q]
  else
    digitChar (threshold k bias + (q - threshold k bias) % (36 - threshold k bias)) ::
      digits bias (k + 36) ((q - threshold k bias) / (36 - threshold k bias))
termination_by q
decreasing_by
  have h := threshold_bounds k bias
  have := Nat.div_le_self (q - threshold k bias) (36 - threshold k bias)
  omega

structure Writer where
  out : List Char := []
  delta : Nat := 0
  bias : Nat := 72
  placed : Nat

/-- Passes over one character while those of code point `m` are written. -/
def Writer.pass (basic m : Nat) (w : Writer) (c : Char) : Writer :=
  if c.toNat < m then { w with delta := w.delta + 1 }
  else if c.toNat = m then
    { out := w.out ++ digits w.bias 36 w.delta
      delta := 0
      bias := adapt w.delta (w.placed + 1) (w.placed = basic)
      placed := w.placed + 1 }
  else w

def Writer.write (s : List Char) (basic : Nat) : List Nat → Nat → Writer → Writer
  | [], _, w => w
  | m :: ms, n, w =>
    let w := s.foldl (pass basic m) { w with delta := w.delta + (m - n) * (w.placed + 1) }
    write s basic ms (m + 1) { w with delta := w.delta + 1 }

def encode (s : List Char) : List Char :=
  let basic := s.filter (·.toNat < 128)
  let others := ((s.filter (128 ≤ ·.toNat)).map Char.toNat).mergeSort.eraseReps
  let written := Writer.write s basic.length others 128 { placed := basic.length }
  basic ++ (if basic = [] then [] else ['-']) ++ written.out

structure Reader where
  out : List Char
  n : Nat := 128
  bias : Nat := 72
  start : Nat := 0
  value : Nat := 0
  weight : Nat := 1
  k : Nat := 36

def Reader.read : List Char → Reader → Option (List Char)
  | [], r => if r.k = 36 then some r.out else none
  | c :: cs, r => do
    let d ← digit? c
    let value := r.value + d * r.weight
    if d < threshold r.k r.bias then
      let count := r.out.length + 1
      let n := r.n + value / count
      let place := value % count
      if n.isValidChar then
        read cs
          { out := r.out.take place ++ Char.ofNat n :: r.out.drop place
            n
            bias := adapt (value - r.start) count (r.start = 0)
            start := place + 1
            value := place + 1 }
      else none
    else
      read cs { r with value, weight := r.weight * (36 - threshold r.k r.bias), k := r.k + 36 }

def decode? (s : List Char) : Option (List Char) :=
  match Text.cutLast? '-' s with
  | some ([], _) => none
  | some (basic, rest) => Reader.read rest { out := basic }
  | none => Reader.read s { out := [] }

end MatrixGateway.Idna.Punycode
