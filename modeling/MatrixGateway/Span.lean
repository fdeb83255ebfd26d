/-!
# Spans of time

A span counts nanoseconds and never exceeds `2^64 - 1` seconds and
`999999999` nanoseconds. Sums and multiples stop at that longest span; the
checked sum refuses to pass it. All arithmetic is that of the natural
numbers, cut off at one place, `clamp`.
-/

set_option autoImplicit false

namespace MatrixGateway

def Span.nanosPerSec : Nat := 1000000000

def Span.nanosPerMilli : Nat := 1000000

def Span.limit : Nat := UInt64.size * Span.nanosPerSec - 1

structure Span where
  nanos : Nat
  nanos_le : nanos ≤ Span.limit
  deriving DecidableEq

namespace Span

def clamp (n : Nat) : Span := ⟨min n limit, Nat.min_le_right ..⟩

def zero : Span := clamp 0

def longest : Span := clamp limit

def ofSecs (s : UInt64) : Span := clamp (s.toNat * nanosPerSec)

def ofMillis (ms : Nat) : Span := clamp (ms * nanosPerMilli)

def parts (a : Span) : Nat × Nat := (a.nanos / nanosPerSec, a.nanos % nanosPerSec)

def millis (a : Span) : Nat := a.nanos / nanosPerMilli

def text (a : Span) : String :=
  let (secs, nanos) := a.parts
  let digits := (toString (nanosPerSec + nanos)).toList.drop 1
  let digits := (digits.reverse.dropWhile (· = '0')).reverse
  toString secs ++ (if digits = [] then "" else "." ++ String.ofList digits) ++ "s"

def add (a b : Span) : Span := clamp (a.nanos + b.nanos)

def add? (a b : Span) : Option Span :=
  if h : a.nanos + b.nanos ≤ limit then some ⟨_, h⟩ else none

def scale (a : Span) (k : Nat) : Span := clamp (a.nanos * k)

def least (a b : Span) : Span := if a.nanos ≤ b.nanos then a else b

instance : LE Span := ⟨fun a b => a.nanos ≤ b.nanos⟩
instance : LT Span := ⟨fun a b => a.nanos < b.nanos⟩
instance (a b : Span) : Decidable (a ≤ b) := inferInstanceAs (Decidable (a.nanos ≤ b.nanos))
instance (a b : Span) : Decidable (a < b) := inferInstanceAs (Decidable (a.nanos < b.nanos))

@[simp] theorem nanos_clamp (n : Nat) : (clamp n).nanos = min n limit := rfl

@[simp] theorem nanos_add (a b : Span) : (a.add b).nanos = min (a.nanos + b.nanos) limit := rfl

@[simp] theorem nanos_scale (a : Span) (k : Nat) :
    (a.scale k).nanos = min (a.nanos * k) limit := rfl

@[simp] theorem nanos_zero : zero.nanos = 0 := rfl

@[simp] theorem nanos_least (a b : Span) : (a.least b).nanos = min a.nanos b.nanos := by
  unfold least; split <;> omega

theorem nanos_ofSecs (s : UInt64) : (ofSecs s).nanos = s.toNat * nanosPerSec := by
  have := s.toNat_lt
  simp only [ofSecs, nanos_clamp, limit, nanosPerSec, UInt64.size]; omega

theorem add?_eq_some_iff {a b c : Span} : a.add? b = some c ↔ c.nanos = a.nanos + b.nanos := by
  have := c.nanos_le
  unfold add?
  split
  · cases c; simp [eq_comm]
  · simp; omega

end Span

end MatrixGateway
