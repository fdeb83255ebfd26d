import MatrixGateway.Span

/-!
# Exponential backoff

The delay before a retry doubles from a base up to a cap, and a random
draw lengthens it by less than a tenth. The draw is an argument here, so a
delay is a function and its ceiling is a bound over every draw.
-/

set_option autoImplicit false

namespace MatrixGateway.Backoff

def cap : Span := Span.ofSecs 60

def factor (attempt : Nat) : Nat :=
  if attempt ≤ 32 then Nat.pow 2 (attempt - 1) else UInt32.size - 1

def capped (attempt : Nat) (base max : Span) : Span :=
  if attempt = 0 ∨ base = Span.zero then Span.zero
  else (base.scale (factor attempt)).least max

/-- Draws below this many milliseconds may be added; the count of whole
milliseconds is kept modulo `2 ^ 64`. -/
def jitterRange (delay : Span) : Nat := delay.millis % UInt64.size / 10

def delay? (attempt : Nat) (base max : Span) (draw : Nat) : Option Span :=
  let d := capped attempt base max
  d.add? (Span.ofMillis (if jitterRange d = 0 then 0 else draw % jitterRange d))

def ceiling? (attempt : Nat) (base max : Span) : Option Span :=
  let d := capped attempt base max
  d.add? (Span.ofMillis (jitterRange d))

def delay (attempt : Nat) (base max : Span) (draw : Nat) : Span :=
  let d := capped attempt base max
  d.add (Span.ofMillis (if jitterRange d = 0 then 0 else draw % jitterRange d))

def ceiling (attempt : Nat) (base max : Span) : Span :=
  let d := capped attempt base max
  d.add (Span.ofMillis (jitterRange d))

/-- The ceilings of `count` delays from `attempt` on, summed. Once a delay
equals the next one, all later ones equal it too, so the rest is a multiple. -/
def ceilings (base max : Span) (attempt : Nat) : (count : Nat) → Span
  | 0 => Span.zero
  | count + 1 =>
    if capped (attempt + 1) base max = capped attempt base max then
      (ceiling attempt base max).scale (count + 1)
    else
      (ceiling attempt base max).add (ceilings base max (attempt + 1) count)

end MatrixGateway.Backoff
