import Mathlib.Algebra.BigOperators.Intervals
import Mathlib.Algebra.BigOperators.Ring.Finset
import Mathlib.Algebra.Order.BigOperators.Group.Finset
import MatrixGateway.Proofs.Delays
import MatrixGateway.Proofs.Retry

/-!
# How long a delivery takes

The worst case is computed before anything is sent: an acknowledgement's time
for every attempt, and the ceilings of all pauses. A delivery whose attempts
keep that time takes no longer, whatever is drawn for its pauses, unless the
worst case is the longest span there is. For whole seconds the worst case has a
closed form, which is cut off at that span and grows with the acknowledgement's
time, the interval and the retransmissions.
-/

set_option autoImplicit false

namespace MatrixGateway

namespace Backoff

/-! ## Sums of ceilings -/

variable (base max : Span)

def ceilingSum (k : Nat) : (count : Nat) → Nat
  | 0 => 0
  | count + 1 => (ceiling k base max).nanos + ceilingSum (k + 1) count

theorem ceilingSum_mono (k : Nat) {a b : Nat} (h : a ≤ b) :
    ceilingSum base max k a ≤ ceilingSum base max k b := by
  induction a generalizing k b with
  | zero => exact Nat.zero_le _
  | succ a ih =>
    cases b with
    | zero => contradiction
    | succ b => exact Nat.add_le_add_left (ih (k + 1) (Nat.le_of_succ_le_succ h)) _

theorem ceilingSum_settled {k : Nat} (h : capped (k + 1) base max = capped k base max)
    (count : Nat) :
    ceilingSum base max k count = count * (ceiling k base max).nanos := by
  have hlater : ∀ j, k ≤ j →
      ceilingSum base max j count = count * (ceiling k base max).nanos := by
    induction count with
    | zero =>
      intro j _
      rw [ceilingSum, Nat.zero_mul]
    | succ count ih =>
      intro j hj
      have hsame : ceiling j base max = ceiling k base max := by
        rw [ceiling, capped_settled base max h hj]
        rfl
      rw [ceilingSum, ih (j + 1) (by omega), hsame, Nat.succ_mul, Nat.add_comm]
  exact hlater k (Nat.le_refl k)

/-- The ceilings as they are computed are their exact sum, cut off at the longest span. -/
theorem nanos_ceilings (k count : Nat) :
    (ceilings base max k count).nanos = min (ceilingSum base max k count) Span.limit := by
  induction count generalizing k with
  | zero => simp [ceilings, ceilingSum]
  | succ count ih =>
    rw [ceilings]
    split
    · rename_i h
      rw [Span.nanos_scale, ceilingSum_settled base max h, Nat.mul_comm]
    · rw [Span.nanos_add, ih, ceilingSum]
      omega

theorem ceilingSum_eq_sum (k count : Nat) :
    ceilingSum base max k count = ∑ i ∈ Finset.Ico k (k + count), (ceiling i base max).nanos := by
  induction count generalizing k with
  | zero => simp [ceilingSum]
  | succ count ih =>
    have hend : k + 1 + count = k + (count + 1) := by omega
    rw [ceilingSum, ih, hend, Finset.sum_eq_sum_Ico_succ_bot (show k < k + (count + 1) by omega)]

/-! ## Whole seconds -/

def pauseMillis (interval k : Nat) : Nat := 1100 * min (interval * 2 ^ (k - 1)) 60

theorem min_multiple (interval : Nat) {k : Nat} (hk : 1 ≤ k) :
    min (interval * multiple k) 60 = min (interval * 2 ^ (k - 1)) 60 := by
  obtain ⟨j, rfl⟩ : ∃ j, k = j + 1 := ⟨k - 1, by omega⟩
  by_cases hj : j < 32
  · rw [multiple_succ hj, Nat.add_sub_cancel]
  · have hpow : 2 ^ 6 ≤ 2 ^ (j + 1 - 1) := Nat.pow_le_pow_right (by decide) (by omega)
    have hmultiple : 2 ^ 6 ≤ multiple (j + 1) := by
      rw [multiple, if_neg j.succ_ne_zero, factor, if_neg (by omega)]
      decide
    rcases Nat.eq_zero_or_pos interval with rfl | hpos
    · rw [Nat.zero_mul, Nat.zero_mul]
    · have hleft := Nat.mul_le_mul hpos hmultiple
      have hright := Nat.mul_le_mul hpos hpow
      omega

theorem nanos_capped_ofSecs (interval : UInt64) {k : Nat} (hk : 1 ≤ k) :
    (capped k (Span.ofSecs interval) cap).nanos =
      min (interval.toNat * 2 ^ (k - 1)) 60 * Span.nanosPerSec := by
  have hcap : cap.nanos = 60 * Span.nanosPerSec := by decide
  have hlimit : 60 * Span.nanosPerSec ≤ Span.limit := by decide
  rw [nanos_capped, Span.nanos_ofSecs, Nat.mul_right_comm, ← min_multiple _ hk, hcap, Nat.min_assoc,
    Nat.min_eq_right hlimit, Nat.mul_min_mul_right]

theorem nanos_ceiling_ofSecs (interval : UInt64) {k : Nat} (hk : 1 ≤ k) :
    (ceiling k (Span.ofSecs interval) cap).nanos =
      pauseMillis interval.toNat k * Span.nanosPerMilli := by
  rw [nanos_ceiling _ (by decide), Span.millis, nanos_capped_ofSecs interval hk, pauseMillis]
  generalize min (interval.toNat * 2 ^ (k - 1)) 60 = secs
  simp only [Span.nanosPerSec, Span.nanosPerMilli]
  omega

theorem pauseMillis_late (interval : Nat) {k : Nat} (hk : 7 ≤ k) :
    pauseMillis interval k = if interval = 0 then 0 else 66000 := by
  have hpow : 2 ^ 6 ≤ 2 ^ (k - 1) := Nat.pow_le_pow_right (by decide) (by omega)
  unfold pauseMillis
  split
  · rename_i hzero
    rw [hzero, Nat.zero_mul]
    rfl
  · have hgrown := Nat.mul_le_mul (Nat.pos_of_ne_zero ‹_›) hpow
    omega

theorem pauseMillis_mono {a b : Nat} (h : a ≤ b) (k : Nat) : pauseMillis a k ≤ pauseMillis b k := by
  have := Nat.mul_le_mul_right (2 ^ (k - 1)) h
  unfold pauseMillis
  omega

end Backoff

namespace Transport

/-! ## One delivery -/

namespace Delivery

theorem elapsed_single (o : Outcome) (a : Attempt) : elapsed ⟨o, [a], []⟩ = a.took := by
  simp [elapsed]

theorem elapsed_cons (a : Attempt) (s : Span) (rest : Delivery) :
    elapsed ⟨rest.outcome, a :: rest.attempts, s :: rest.pauses⟩ =
      a.took + s.nanos + rest.elapsed := by
  simp only [elapsed, List.foldr_cons]
  omega

theorem elapsed_run_le (p : Params) (m : Http.Method) (peer : Nat → Attempt) (draw : Nat → Nat)
    (limit k retries : Nat) (h : ∀ a ∈ (run p m peer draw k retries).attempts, a.took ≤ limit) :
    (run p m peer draw k retries).elapsed ≤
      (retries + 1) * limit + Backoff.ceilingSum p.flightInterval Backoff.cap k retries := by
  induction retries generalizing k with
  | zero =>
    have hlast := run_last p m peer draw k 0 (Or.inl rfl)
    rw [hlast] at h ⊢
    have ht := h (peer k) (by simp)
    rw [elapsed_single]
    omega
  | succ retries ih =>
    rw [Nat.succ_mul, Backoff.ceilingSum]
    by_cases hagain : (peer k).mayRepeat m = true
    · have hrun := run_again p m peer draw k retries hagain
      rw [hrun] at h ⊢
      have ht := h (peer k) (by simp)
      have hrest := ih (k + 1) fun a ha => h a (by simp [ha])
      have hpause := Backoff.delay_le_ceiling p.flightInterval Backoff.cap k (draw k)
      rw [elapsed_cons]
      omega
    · have hlast := run_last p m peer draw k (retries + 1) (Or.inr (eq_false_of_ne_true hagain))
      rw [hlast] at h ⊢
      have ht := h (peer k) (by simp)
      rw [elapsed_single]
      omega

end Delivery

namespace Params

theorem nanos_worstCase (p : Params) :
    p.worstCase.nanos = min (p.maxAttempts * p.ackTimeout.nanos +
      Backoff.ceilingSum p.flightInterval Backoff.cap 1 p.transmissionMaxRetransmits.toNat)
      Span.limit := by
  rw [worstCase, Span.nanos_add, Span.nanos_scale, Backoff.nanos_ceilings, Nat.mul_comm]
  omega

/-- A delivery whose attempts end in time takes no longer than the worst case, as long
as that is not cut off. -/
theorem elapsed_le_worstCase (p : Params) (m : Http.Method) (peer : Nat → Attempt)
    (draw : Nat → Nat)
    (h : ∀ a ∈ (p.deliver m peer draw).attempts, a.took ≤ p.ackTimeout.nanos) :
    (p.deliver m peer draw).elapsed ≤ p.worstCase.nanos ∨ p.worstCase = Span.longest := by
  have hb := p.maxAttempts_bounds
  have hretries : p.maxAttempts - 1 ≤ p.transmissionMaxRetransmits.toNat := by
    unfold maxAttempts
    omega
  have hrun := Delivery.elapsed_run_le p m peer draw p.ackTimeout.nanos 1 (p.maxAttempts - 1) h
  rw [Nat.sub_add_cancel hb.1] at hrun
  have hpauses := Backoff.ceilingSum_mono p.flightInterval Backoff.cap 1 hretries
  have hworst := p.nanos_worstCase
  by_cases hcut : p.worstCase.nanos < Span.limit
  · left
    change (p.deliver m peer draw).elapsed ≤ _ at hrun
    omega
  · right
    apply Span.eq_of_nanos
    have := p.worstCase.nanos_le
    simp only [Span.longest, Span.nanos_clamp]
    omega

theorem elapsed_le_worstCase_unacknowledged :
    let p : Params := { flightIntervalSecs := 1, transmissionMaxRetransmits := 2 }
    let peer : Nat → Attempt := fun _ => ⟨p.ackTimeout.nanos, .error (.connect true, "late")⟩
    let d := p.deliver .get peer fun k => 100 * k - 1
    (∀ a ∈ d.attempts, a.took ≤ p.ackTimeout.nanos) ∧ d.attempts.length = 3 ∧
      d.elapsed = 9298000000 ∧ d.elapsed ≤ p.worstCase.nanos ∧ p.worstCase.nanos = 9300000000 := by
  intro p peer d
  have ht : ∀ a ∈ d.attempts, a.took ≤ p.ackTimeout.nanos := by decide +kernel
  have hw : p.worstCase ≠ Span.longest := by decide +kernel
  have hle := (elapsed_le_worstCase p .get peer (fun k => 100 * k - 1) ht).resolve_right hw
  exact ⟨ht, by decide +kernel, by decide +kernel, hle, by decide +kernel⟩

/-! ## The worst case in closed form -/

/-- The worst case added up pause by pause; none if a pause has no ceiling. -/
def sumPauses? (p : Params) : Option Span :=
  (List.range' 1 p.transmissionMaxRetransmits.toNat).foldlM
    (fun total k => (Backoff.ceiling? k p.flightInterval Backoff.cap).map total.add)
    (p.ackTimeout.scale p.maxAttempts)

def exactWorst (ack interval retransmits : Nat) : Nat :=
  ack * min (retransmits + 1) (2 ^ 32 - 1) * Span.nanosPerSec +
    (∑ k ∈ Finset.Icc 1 retransmits, Backoff.pauseMillis interval k) * Span.nanosPerMilli

theorem exactWorst_mono {a b i j m n : Nat} (ha : a ≤ b) (hi : i ≤ j) (hm : m ≤ n) :
    exactWorst a i m ≤ exactWorst b j n := by
  have hattempts : min (m + 1) (2 ^ 32 - 1) ≤ min (n + 1) (2 ^ 32 - 1) := by omega
  have hpauses : ∑ k ∈ Finset.Icc 1 m, Backoff.pauseMillis i k ≤
      ∑ k ∈ Finset.Icc 1 n, Backoff.pauseMillis j k :=
    calc ∑ k ∈ Finset.Icc 1 m, Backoff.pauseMillis i k
        ≤ ∑ k ∈ Finset.Icc 1 m, Backoff.pauseMillis j k :=
          Finset.sum_le_sum fun k _ => Backoff.pauseMillis_mono hi k
      _ ≤ ∑ k ∈ Finset.Icc 1 n, Backoff.pauseMillis j k :=
          Finset.sum_le_sum_of_subset (Finset.Icc_subset_Icc_right hm)
  exact Nat.add_le_add (Nat.mul_le_mul_right _ (Nat.mul_le_mul ha hattempts))
    (Nat.mul_le_mul_right _ hpauses)

theorem foldlM_ceilings (interval total : Span) (k count : Nat) :
    ∃ t, (List.range' k count).foldlM
        (fun total k => (Backoff.ceiling? k interval Backoff.cap).map total.add) total = some t ∧
      t.nanos = min (total.nanos + Backoff.ceilingSum interval Backoff.cap k count) Span.limit := by
  induction count generalizing total k with
  | zero =>
    have hspan := total.nanos_le
    exact ⟨total, rfl, by simp only [Backoff.ceilingSum]; omega⟩
  | succ count ih =>
    have hceiling := Backoff.ceiling?_eq interval
      (show Backoff.cap.millis < UInt64.size by decide) k
    obtain ⟨t, hfold, ht⟩ := ih (total.add (Backoff.ceiling k interval Backoff.cap)) (k + 1)
    refine ⟨t, ?_, ?_⟩
    · rw [List.range'_succ, List.foldlM_cons, hceiling]
      exact hfold
    · rw [ht, Span.nanos_add, Backoff.ceilingSum]
      omega

theorem sumPauses?_eq (p : Params) : p.sumPauses? = some p.worstCase := by
  obtain ⟨t, hfold, ht⟩ := foldlM_ceilings p.flightInterval (p.ackTimeout.scale p.maxAttempts) 1
    p.transmissionMaxRetransmits.toNat
  have hequal : t = p.worstCase := by
    apply Span.eq_of_nanos
    rw [ht, p.nanos_worstCase, Span.nanos_scale, Nat.mul_comm]
    omega
  rw [sumPauses?, hfold, hequal]

theorem toNat_ackTimeout (p : Params) :
    (max p.transmissionAckTimeoutSecs 1).toNat = max p.transmissionAckTimeoutSecs.toNat 1 := by
  change (if p.transmissionAckTimeoutSecs ≤ 1 then 1 else p.transmissionAckTimeoutSecs).toNat = _
  split
  · rename_i hle
    rw [UInt64.le_iff_toNat_le, UInt64.toNat_one] at hle
    rw [UInt64.toNat_one, Nat.max_eq_right hle]
  · rename_i hlt
    rw [UInt64.le_iff_toNat_le, UInt64.toNat_one] at hlt
    rw [Nat.max_eq_left (by omega)]

theorem nanos_worstCase_closed (p : Params) :
    p.worstCase.nanos = min (exactWorst (max p.transmissionAckTimeoutSecs.toNat 1)
      p.flightIntervalSecs.toNat p.transmissionMaxRetransmits.toNat) Span.limit := by
  have hsum : Backoff.ceilingSum p.flightInterval Backoff.cap 1 p.transmissionMaxRetransmits.toNat =
      (∑ k ∈ Finset.Icc 1 p.transmissionMaxRetransmits.toNat,
        Backoff.pauseMillis p.flightIntervalSecs.toNat k) * Span.nanosPerMilli := by
    rw [Backoff.ceilingSum_eq_sum, Finset.sum_mul, Nat.add_comm, Finset.Ico_add_one_right_eq_Icc]
    refine Finset.sum_congr rfl fun k hk => ?_
    exact Backoff.nanos_ceiling_ofSecs _ (Finset.mem_Icc.mp hk).1
  have hcount : UInt32.size - 1 = 2 ^ 32 - 1 := rfl
  rw [p.nanos_worstCase, hsum, exactWorst, ackTimeout, Span.nanos_ofSecs, toNat_ackTimeout,
    maxAttempts, hcount, Nat.mul_comm, Nat.mul_right_comm]

/-- The worst case is the sum that is taken pause by pause, in which nothing overflows: its exact
value, cut off at the longest span. From the seventh on the pauses are alike. It does not shrink
when one of its three parameters grows, and hangs on no other. -/
theorem worstCase_closed (p : Params) :
    p.sumPauses? = some p.worstCase ∧
    p.worstCase.nanos = min Span.longest.nanos
      (exactWorst (max p.transmissionAckTimeoutSecs.toNat 1) p.flightIntervalSecs.toNat
        p.transmissionMaxRetransmits.toNat) ∧
    (∀ k, 7 ≤ k → Backoff.pauseMillis p.flightIntervalSecs.toNat k =
      if p.flightIntervalSecs.toNat = 0 then 0 else 66000) ∧
    (∀ q : Params, p.transmissionAckTimeoutSecs ≤ q.transmissionAckTimeoutSecs →
      p.flightIntervalSecs ≤ q.flightIntervalSecs →
      p.transmissionMaxRetransmits ≤ q.transmissionMaxRetransmits → p.worstCase ≤ q.worstCase) ∧
    (∀ q : Params, p.transmissionAckTimeoutSecs = q.transmissionAckTimeoutSecs →
      p.flightIntervalSecs = q.flightIntervalSecs →
      p.transmissionMaxRetransmits = q.transmissionMaxRetransmits → p.worstCase = q.worstCase) := by
  have hlongest : Span.longest.nanos = Span.limit := Nat.min_self _
  refine ⟨p.sumPauses?_eq, ?_, fun k hk => Backoff.pauseMillis_late _ hk,
    fun q hack hinterval hretransmits => ?_, fun q hack hinterval hretransmits => ?_⟩
  · rw [p.nanos_worstCase_closed, hlongest, Nat.min_comm]
  · rw [UInt64.le_iff_toNat_le] at hack hinterval
    rw [UInt32.le_iff_toNat_le] at hretransmits
    have hexact := exactWorst_mono
      (show max p.transmissionAckTimeoutSecs.toNat 1 ≤ max q.transmissionAckTimeoutSecs.toNat 1 by
        omega) hinterval hretransmits
    rw [Span.le_iff, p.nanos_worstCase_closed, q.nanos_worstCase_closed]
    exact min_le_min_right _ hexact
  · apply Span.eq_of_nanos
    rw [p.nanos_worstCase_closed, q.nanos_worstCase_closed, hack, hinterval, hretransmits]

theorem worstCase_closed_long_interval :
    let p : Params := { flightIntervalSecs := 1, transmissionMaxRetransmits := 3 }
    let q : Params := { p with flightIntervalSecs := 100, transmissionNStart := 9 }
    p.worstCase.nanos = 15700000000 ∧ Backoff.pauseMillis 1 7 = 66000 ∧
      p.flightIntervalSecs ≤ q.flightIntervalSecs ∧ p.worstCase ≤ q.worstCase ∧
      q.worstCase = ({ q with transmissionNStart := 1 } : Params).worstCase := by
  intro p q
  obtain ⟨-, hexact, hlate, hgrows, -⟩ := p.worstCase_closed
  have hinterval : p.flightIntervalSecs ≤ q.flightIntervalSecs := by decide
  have hvalue : min Span.longest.nanos (exactWorst (max p.transmissionAckTimeoutSecs.toNat 1)
      p.flightIntervalSecs.toNat p.transmissionMaxRetransmits.toNat) = 15700000000 := by
    decide +kernel
  exact ⟨hexact.trans hvalue, hlate 7 (by decide), hinterval,
    hgrows q (by decide) hinterval (by decide),
    q.worstCase_closed.2.2.2.2 { q with transmissionNStart := 1 } rfl rfl rfl⟩

end Params

end Transport

end MatrixGateway
