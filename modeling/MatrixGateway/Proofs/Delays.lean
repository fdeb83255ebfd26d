import Mathlib.Algebra.Group.Nat.Defs
import Mathlib.Order.Monotone.Basic
import MatrixGateway.Transport.Backoff

/-!
# Delays and their ceilings

A delay grows with its attempt until the cap or the largest multiple stops it, and up to there
each is twice the one before. A draw lengthens it by less than a tenth. Where the cap has a count of
milliseconds in 64 bits no sum fails, and no ceiling shrinks when attempt, base or cap grow.
-/

set_option autoImplicit false

namespace MatrixGateway

namespace Span

theorem eq_of_nanos {a b : Span} (h : a.nanos = b.nanos) : a = b := by
  cases a
  cases b
  simpa using h

theorem le_iff {a b : Span} : a ≤ b ↔ a.nanos ≤ b.nanos := Iff.rfl

theorem add?_of_le {a b : Span} (h : a.nanos + b.nanos ≤ limit) :
    a.add? b = some (a.add b) := by
  rw [add?_eq_some_iff, nanos_add]
  omega

end Span

namespace Backoff

/-! ## Delays before jitter -/

/-- How often the base fits into the uncapped delay, with none before the first attempt. -/
def multiple (attempt : Nat) : Nat := if attempt = 0 then 0 else factor attempt

theorem multiple_le_succ (k : Nat) : multiple k ≤ multiple (k + 1) := by
  unfold multiple factor
  rw [if_neg k.succ_ne_zero]
  split
  · exact Nat.zero_le _
  · split
    · split
      · exact Nat.pow_le_pow_right (by decide) (by omega)
      · rename_i hle hlt
        obtain rfl : k = 32 := by omega
        decide
    · rw [if_neg (by omega)]

theorem multiple_mono : Monotone multiple := monotone_nat_of_le_succ multiple_le_succ

theorem multiple_grows (k : Nat) :
    multiple k < multiple (k + 1) ∨ ∀ j, k ≤ j → multiple j = multiple k := by
  by_cases hk : k ≤ 32
  · left
    by_cases hz : k = 0
    · subst hz
      decide
    · unfold multiple factor
      rw [if_neg hz, if_neg k.succ_ne_zero, if_pos hk]
      split
      · exact Nat.pow_lt_pow_right (by decide) (by omega)
      · obtain rfl : k = 32 := by omega
        decide
  · right
    intro j hj
    unfold multiple factor
    rw [if_neg (by omega), if_neg (by omega), if_neg (by omega), if_neg hk]

theorem multiple_succ {k : Nat} (h : k < 32) : multiple (k + 1) = 2 ^ k := by
  rw [multiple, if_neg k.succ_ne_zero, factor, if_pos (by omega), Nat.add_sub_cancel]
  rfl

section Capped

variable (base max : Span)

theorem nanos_capped (k : Nat) :
    (capped k base max).nanos = min (min (base.nanos * multiple k) Span.limit) max.nanos := by
  unfold capped multiple
  by_cases hk : k = 0
  · simp [hk]
  · by_cases hb : base = Span.zero
    · simp [hb]
    · simp [hk, hb]

theorem capped_le_max (k : Nat) : (capped k base max).nanos ≤ max.nanos := by
  rw [nanos_capped]
  exact Nat.min_le_right ..

/-- A delay that equals the next one equals all later ones. -/
theorem capped_settled {k : Nat} (h : capped (k + 1) base max = capped k base max) {j : Nat}
    (hj : k ≤ j) : capped j base max = capped k base max := by
  apply Span.eq_of_nanos
  have hn := congrArg Span.nanos h
  rw [nanos_capped, nanos_capped] at hn ⊢
  rcases multiple_grows k with hlt | hconst
  · have hle : base.nanos * multiple k ≤ base.nanos * multiple j :=
      Nat.mul_le_mul_left _ (multiple_mono hj)
    rcases Nat.eq_zero_or_pos base.nanos with hz | hpos
    · simp [hz]
    · have hgrown : base.nanos * multiple k < base.nanos * multiple (k + 1) :=
        Nat.mul_lt_mul_of_pos_left hlt hpos
      omega
  · rw [hconst j hj]

theorem capped_mono {j k : Nat} {b c m n : Span} (hk : j ≤ k) (hb : b ≤ c) (hm : m ≤ n) :
    (capped j b m).nanos ≤ (capped k c n).nanos := by
  have hgrown : b.nanos * multiple j ≤ c.nanos * multiple k :=
    Nat.mul_le_mul (Span.le_iff.mp hb) (multiple_mono hk)
  have hcap := Span.le_iff.mp hm
  rw [nanos_capped, nanos_capped]
  omega

theorem nanos_capped_double {k : Nat} (hk : 1 ≤ k) (hpow : 2 ^ k < 2 ^ 32)
    (hcap : base.nanos * 2 ^ k ≤ max.nanos) :
    (capped (k + 1) base max).nanos = 2 * (capped k base max).nanos := by
  have hlt : k < 32 := (Nat.pow_lt_pow_iff_right (by decide)).mp hpow
  obtain ⟨j, rfl⟩ : ∃ j, k = j + 1 := ⟨k - 1, by omega⟩
  have htwice : base.nanos * 2 ^ (j + 1) = 2 * (base.nanos * 2 ^ j) := by
    rw [Nat.pow_succ, Nat.mul_comm (2 ^ j), Nat.mul_left_comm]
  have hspan := max.nanos_le
  rw [nanos_capped, nanos_capped, multiple_succ hlt, multiple_succ (by omega), htwice]
  omega

end Capped

/-! ## Draws and ceilings -/

theorem nanos_ofMillis_mono {a b : Nat} (h : a ≤ b) :
    (Span.ofMillis a).nanos ≤ (Span.ofMillis b).nanos := by
  have := Nat.mul_le_mul_right Span.nanosPerMilli h
  simp only [Span.ofMillis, Span.nanos_clamp]
  omega

theorem draw_le (range draw : Nat) : (if range = 0 then 0 else draw % range) ≤ range := by
  split
  · exact Nat.zero_le range
  · exact Nat.le_of_lt (Nat.mod_lt draw (Nat.pos_of_ne_zero ‹_›))

section Drawn

variable (base max : Span)

theorem capped_le_delay (k draw : Nat) :
    (capped k base max).nanos ≤ (delay k base max draw).nanos := by
  have := (capped k base max).nanos_le
  simp only [delay, Span.nanos_add]
  omega

theorem delay_le_ceiling (k draw : Nat) :
    (delay k base max draw).nanos ≤ (ceiling k base max).nanos := by
  have := nanos_ofMillis_mono (draw_le (jitterRange (capped k base max)) draw)
  simp only [delay, ceiling, Span.nanos_add]
  omega

end Drawn

/-! ## Caps that leave room for the jitter -/

section Roomy

variable (base : Span) {max : Span} (h : max.millis < UInt64.size)

include h

theorem jitterRange_capped (k : Nat) :
    jitterRange (capped k base max) = (capped k base max).millis / 10 := by
  have hmillis : (capped k base max).millis ≤ max.millis :=
    Nat.div_le_div_right (capped_le_max base max k)
  rw [jitterRange, Nat.mod_eq_of_lt (Nat.lt_of_le_of_lt hmillis h)]

theorem jitter_fits (k : Nat) {ms : Nat} (hms : ms ≤ jitterRange (capped k base max)) :
    (capped k base max).nanos + (Span.ofMillis ms).nanos ≤ Span.limit := by
  have hcap := capped_le_max base max k
  have hspan : (Span.ofMillis ms).nanos ≤ ms * Span.nanosPerMilli := Nat.min_le_left ..
  rw [jitterRange_capped base h] at hms
  simp only [Span.millis, Span.limit, Span.nanosPerSec, Span.nanosPerMilli, UInt64.size] at *
  omega

theorem delay?_eq (k draw : Nat) : delay? k base max draw = some (delay k base max draw) :=
  Span.add?_of_le (jitter_fits base h k (draw_le ..))

theorem ceiling?_eq (k : Nat) : ceiling? k base max = some (ceiling k base max) :=
  Span.add?_of_le (jitter_fits base h k (Nat.le_refl _))

theorem nanos_add_jitter (k : Nat) {ms : Nat} (hms : ms ≤ jitterRange (capped k base max)) :
    ((capped k base max).add (Span.ofMillis ms)).nanos =
      (capped k base max).nanos + ms * Span.nanosPerMilli := by
  have hfits := jitter_fits base h k hms
  have hrange := jitterRange_capped base h k
  have hspan := (capped k base max).nanos_le
  rw [Span.nanos_add, Nat.min_eq_left hfits, Span.ofMillis, Span.nanos_clamp, Nat.min_eq_left]
  simp only [Span.millis, Span.nanosPerMilli] at *
  omega

theorem nanos_ceiling (k : Nat) : (ceiling k base max).nanos =
    (capped k base max).nanos + (capped k base max).millis / 10 * Span.nanosPerMilli := by
  rw [← jitterRange_capped base h]
  exact nanos_add_jitter base h k (Nat.le_refl _)

theorem delay_lt_ceiling (k draw : Nat) (hrange : 0 < jitterRange (capped k base max)) :
    (delay k base max draw).nanos < (ceiling k base max).nanos := by
  have hdraw := Nat.mod_lt draw hrange
  rw [delay, ceiling, if_neg (Nat.ne_of_gt hrange), nanos_add_jitter base h k (Nat.le_refl _),
    nanos_add_jitter base h k (Nat.le_of_lt hdraw)]
  exact Nat.add_lt_add_left (Nat.mul_lt_mul_of_pos_right hdraw (by decide)) _

theorem jitterRange_pos {k : Nat} (hdelay : Span.ofMillis 10 ≤ capped k base max) :
    0 < jitterRange (capped k base max) := by
  have hten : (Span.ofMillis 10).nanos = 10 * Span.nanosPerMilli := by decide
  rw [Span.le_iff, hten] at hdelay
  rw [jitterRange_capped base h]
  exact Nat.div_pos ((Nat.le_div_iff_mul_le (by decide)).mpr hdelay) (by decide)

theorem ceiling_le_max (k : Nat) : (ceiling k base max).nanos ≤ max.nanos + max.nanos / 10 := by
  have hcap := capped_le_max base max k
  rw [nanos_ceiling base h]
  simp only [Span.millis, Span.nanosPerMilli]
  omega

omit base h in
theorem ceiling_mono {j k : Nat} {b c m n : Span} (hk : j ≤ k) (hb : b ≤ c) (hm : m ≤ n)
    (hn : n.millis < UInt64.size) : ceiling j b m ≤ ceiling k c n := by
  have hcapped := capped_mono hk hb hm
  have hroom : m.millis < UInt64.size := Nat.lt_of_le_of_lt (Nat.div_le_div_right hm) hn
  have hmillis : (capped j b m).millis ≤ (capped k c n).millis := Nat.div_le_div_right hcapped
  rw [Span.le_iff, nanos_ceiling b hroom, nanos_ceiling c hn]
  exact Nat.add_le_add hcapped
    (Nat.mul_le_mul_right _ (Nat.div_le_div_right hmillis))

/-- Delays and ceilings are spans, each draw lies between the bare delay and the ceiling, and
strictly below it from ten milliseconds on; the ceiling is at most a tenth above the cap and never
shrinks. Up to the cap each delay is twice the one before. -/
theorem delay_within_ceiling (attempt : Nat) :
    (∀ draw, delay? attempt base max draw = some (delay attempt base max draw) ∧
      capped attempt base max ≤ delay attempt base max draw ∧
      delay attempt base max draw ≤ ceiling attempt base max ∧
      (Span.ofMillis 10 ≤ capped attempt base max →
        delay attempt base max draw < ceiling attempt base max)) ∧
    ceiling? attempt base max = some (ceiling attempt base max) ∧
    (ceiling attempt base max).nanos ≤ max.nanos + max.nanos / 10 ∧
    (∀ (later : Nat) (longer higher : Span), attempt ≤ later → base ≤ longer → max ≤ higher →
      higher.millis < UInt64.size → ceiling attempt base max ≤ ceiling later longer higher) ∧
    (1 ≤ attempt → 2 ^ attempt < 2 ^ 32 → base.nanos * 2 ^ attempt ≤ max.nanos →
      (capped (attempt + 1) base max).nanos = 2 * (capped attempt base max).nanos) := by
  refine ⟨fun draw => ⟨delay?_eq base h attempt draw, capped_le_delay base max attempt draw,
    delay_le_ceiling base max attempt draw, fun hten => ?_⟩, ceiling?_eq base h attempt,
    ceiling_le_max base h attempt, fun _ _ _ hlater hlonger hhigher hroom => ?_,
    nanos_capped_double base max⟩
  · exact delay_lt_ceiling base h attempt draw (jitterRange_pos base h hten)
  · exact ceiling_mono hlater hlonger hhigher hroom

omit base h in
theorem delay_within_ceiling_fourth :
    let base := Span.ofSecs 1
    cap.millis < UInt64.size ∧ Span.ofMillis 10 ≤ capped 4 base cap ∧
      delay? 4 base cap 799 = some (delay 4 base cap 799) ∧
      delay 4 base cap 799 < ceiling 4 base cap ∧
      (ceiling 4 base cap).nanos ≤ cap.nanos + cap.nanos / 10 ∧
      base ≤ Span.ofSecs 2 ∧ cap ≤ Span.ofSecs 90 ∧ (Span.ofSecs 90).millis < UInt64.size ∧
      ceiling 4 base cap ≤ ceiling 7 (Span.ofSecs 2) (Span.ofSecs 90) ∧
      base.nanos * 2 ^ 4 ≤ cap.nanos ∧
      (capped 5 base cap).nanos = 2 * (capped 4 base cap).nanos := by
  intro base
  have hroom : cap.millis < UInt64.size := by decide
  have hten : Span.ofMillis 10 ≤ capped 4 base cap := by decide
  have hlonger : base ≤ Span.ofSecs 2 := by decide
  have hhigher : cap ≤ Span.ofSecs 90 := by decide
  have hhigh : (Span.ofSecs 90).millis < UInt64.size := by decide
  have hbelow : base.nanos * 2 ^ 4 ≤ cap.nanos := by decide
  obtain ⟨hdelays, -, hmost, hgrows, hdoubles⟩ := delay_within_ceiling base hroom 4
  obtain ⟨hspan, -, -, hless⟩ := hdelays 799
  exact ⟨hroom, hten, hspan, hless hten, hmost, hlonger, hhigher, hhigh,
    hgrows 7 _ _ (by decide) hlonger hhigher hhigh, hbelow, hdoubles (by decide) (by decide) hbelow⟩

end Roomy

end Backoff

end MatrixGateway
