import Mathlib.Order.Bounds.Basic
import MatrixGateway.Transport.Https

/-!
# When a delivery stops

The retry loop keeps a count of 32 bits and compares it with its limit after
every failure. Played on a sequence of attempts, of which there may be too
few, it makes the attempts of a delivery and ends where the delivery ends.
A request that must not be repeated goes on only while no connection was made.
-/

set_option autoImplicit false

namespace MatrixGateway.Transport

namespace Attempt

def mayRepeat (m : Http.Method) (a : Attempt) : Bool :=
  match a.result with
  | .ok _ => false
  | .error (f, _) => f.retryable m

def isUnconnected (a : Attempt) : Bool :=
  match a.result with
  | .error (.connect _, _) => true
  | _ => false

def outcome (k : Nat) (a : Attempt) : Outcome :=
  match a.result with
  | .ok r => .ok r
  | .error (f, reason) => .error (f.conclude k reason)

theorem isUnconnected_iff {a : Attempt} :
    a.isUnconnected = true ↔ ∃ t reason, a.result = .error (.connect t, reason) := by
  unfold isUnconnected
  split
  · rename_i t reason hr
    simp [hr]
  · rename_i h
    simpa using h

theorem mayRepeat_unconnected {m : Http.Method} {a : Attempt} (hm : m.isIdempotent = false)
    (ha : a.mayRepeat m = true) : a.isUnconnected = true := by
  unfold mayRepeat at ha
  unfold isUnconnected
  split at ha
  · contradiction
  · rename_i f reason hr
    cases f with
    | connect t => simp [hr]
    | timeout => simp [AttemptFailure.retryable, hm] at ha
    | other => simp [AttemptFailure.retryable, hm] at ha

end Attempt

/-! ## One delivery -/

namespace Delivery

variable (p : Params) (m : Http.Method) (peer : Nat → Attempt) (draw : Nat → Nat)

theorem run_last (k retries : Nat) (h : retries = 0 ∨ (peer k).mayRepeat m = false) :
    run p m peer draw k retries = ⟨(peer k).outcome k, [peer k], []⟩ := by
  unfold Attempt.mayRepeat at h
  unfold Attempt.outcome
  cases retries with
  | zero =>
    rw [run]
    cases (peer k).result with
    | ok r => rfl
    | error e => rfl
  | succ retries =>
    rw [run]
    cases hr : (peer k).result with
    | ok r => rfl
    | error e =>
      rw [hr] at h
      have hf : e.1.retryable m = false := h.resolve_left (Nat.succ_ne_zero retries)
      simp only [hf, Bool.false_eq_true, if_false]

theorem run_again (k retries : Nat) (h : (peer k).mayRepeat m = true) :
    run p m peer draw k (retries + 1) =
      ⟨(run p m peer draw (k + 1) retries).outcome,
        peer k :: (run p m peer draw (k + 1) retries).attempts,
        Backoff.delay k p.flightInterval Backoff.cap (draw k) ::
          (run p m peer draw (k + 1) retries).pauses⟩ := by
  unfold Attempt.mayRepeat at h
  rw [run]
  cases hr : (peer k).result with
  | ok r =>
    rw [hr] at h
    contradiction
  | error e =>
    rw [hr] at h
    have hf : e.1.retryable m = true := h
    simp only [hf, if_true]

theorem run_attempts (k retries : Nat) : ∃ j ≤ retries,
    (run p m peer draw k retries).attempts = (List.range' k (j + 1)).map peer ∧
    (run p m peer draw k retries).outcome = (peer (k + j)).outcome (k + j) ∧
    (∀ i < j, (peer (k + i)).mayRepeat m = true) ∧
    (j = retries ∨ (peer (k + j)).mayRepeat m = false) := by
  induction retries generalizing k with
  | zero =>
    refine ⟨0, le_refl _, ?_⟩
    simp [run_last]
  | succ retries ih =>
    by_cases h : (peer k).mayRepeat m = true
    · obtain ⟨j, hj, ha, ho, hr, hl⟩ := ih (k + 1)
      have hk : k + 1 + j = k + (j + 1) := by omega
      rw [hk] at ho hl
      refine ⟨j + 1, by omega, ?_, ?_, ?_, ?_⟩
      · rw [run_again _ _ _ _ _ _ h]
        change peer k :: _ = _
        rw [ha]
        rfl
      · rw [run_again _ _ _ _ _ _ h, ho]
      · intro i hi
        cases i with
        | zero => exact h
        | succ i => simpa [Nat.add_comm, Nat.add_left_comm] using hr i (by omega)
      · exact hl.imp_left (congrArg (· + 1))
    · have h' : (peer k).mayRepeat m = false := by simpa using h
      refine ⟨0, Nat.zero_le _, ?_⟩
      simp [run_last _ _ _ _ _ _ (Or.inr h'), h']

end Delivery

/-! ## The loop and its count -/

inductive Turn where
  | again (made : UInt32)
  | over (made : UInt32) (outcome : Outcome)

namespace Params

/-- The limit that the loop compares with: a sum that stops at the largest number of 32 bits. -/
def limit (p : Params) : UInt32 :=
  if p.transmissionMaxRetransmits.toNat + 1 < UInt32.size then p.transmissionMaxRetransmits + 1
  else p.transmissionMaxRetransmits

def turn (p : Params) (m : Http.Method) (made : UInt32) (a : Attempt) : Option Turn :=
  if made.toNat + 1 < UInt32.size then
    let made := made + 1
    match a.result with
    | .ok r => some (.over made (.ok r))
    | .error (f, reason) =>
      if p.limit ≤ made ∨ f.retryable m = false then
        some (.over made (.error (f.conclude made.toNat reason)))
      else some (.again made)
  else none

def play (p : Params) (m : Http.Method) (made : UInt32) : List Attempt → Option Turn
  | [] => some (.again made)
  | a :: as =>
    match p.turn m made a with
    | some (.again made) => play p m made as
    | ended => ended

/-- Whether the `k`-th attempt is a last one: a whole response, a failure that must
not be followed by a repetition, or the last attempt that is allowed. -/
def EndsAt (p : Params) (m : Http.Method) (k : Nat) (a : Attempt) : Prop :=
  (∃ r, a.result = .ok r) ∨
    (∃ f reason, a.result = .error (f, reason) ∧ f.retryable m = false) ∨ k = p.maxAttempts

theorem endsAt_iff (p : Params) (m : Http.Method) (k : Nat) (a : Attempt) :
    p.EndsAt m k a ↔ a.mayRepeat m = false ∨ k = p.maxAttempts := by
  unfold EndsAt Attempt.mayRepeat
  cases hr : a.result with
  | ok r => simp
  | error e => obtain ⟨f, reason⟩ := e; simp

theorem maxAttempts_bounds (p : Params) : 1 ≤ p.maxAttempts ∧ p.maxAttempts < UInt32.size := by
  simp only [maxAttempts, UInt32.size]
  omega

theorem toNat_limit (p : Params) : p.limit.toNat = p.maxAttempts := by
  have h := p.transmissionMaxRetransmits.toNat_lt
  simp only [limit, maxAttempts, UInt32.size] at *
  split
  · rw [UInt32.toNat_add]
    simp only [UInt32.toNat_one]
    omega
  · omega

theorem toNat_count (made : UInt32) (h : made.toNat + 1 < UInt32.size) :
    (made + 1).toNat = made.toNat + 1 := by
  rw [UInt32.toNat_add]
  exact Nat.mod_eq_of_lt h

section Loop

variable (p : Params) (m : Http.Method)

theorem turn_again (made : UInt32) (a : Attempt) (hc : made.toNat + 1 < p.maxAttempts)
    (ha : a.mayRepeat m = true) : p.turn m made a = some (.again (made + 1)) := by
  have hs : made.toNat + 1 < UInt32.size := hc.trans p.maxAttempts_bounds.2
  have hl : ¬ p.limit ≤ made + 1 := by
    rw [UInt32.le_iff_toNat_le, toNat_limit, toNat_count made hs]
    omega
  unfold Attempt.mayRepeat at ha
  split at ha
  · contradiction
  · rename_i f reason hr
    simp [turn, hs, hr, hl, ha]

theorem turn_over (made : UInt32) (a : Attempt) (hc : made.toNat + 1 ≤ p.maxAttempts)
    (ha : made.toNat + 1 = p.maxAttempts ∨ a.mayRepeat m = false) :
    p.turn m made a = some (.over (made + 1) (a.outcome (made.toNat + 1))) := by
  have hs : made.toNat + 1 < UInt32.size := by have := p.maxAttempts_bounds.2; omega
  have hn := toNat_count made hs
  have hl : made.toNat + 1 = p.maxAttempts → p.limit ≤ made + 1 := by
    intro h
    rw [UInt32.le_iff_toNat_le, toNat_limit, hn]
    omega
  unfold Attempt.mayRepeat at ha
  cases hr : a.result with
  | ok r => simp [turn, hs, hr, Attempt.outcome]
  | error e =>
    obtain ⟨f, reason⟩ := e
    have hd : p.limit ≤ made + 1 ∨ f.retryable m = false := by
      rcases ha with h | h
      · exact Or.inl (hl h)
      · exact Or.inr (by simpa [hr] using h)
    simp only [turn, hs, if_true, hr, hd, Attempt.outcome, hn]

theorem play_again (peer : Nat → Attempt) (n : Nat) (rest : List Attempt) (made : UInt32)
    (hc : made.toNat + n < p.maxAttempts)
    (hr : ∀ i < n, (peer (made.toNat + 1 + i)).mayRepeat m = true) :
    p.play m made ((List.range' (made.toNat + 1) n).map peer ++ rest) =
      p.play m (UInt32.ofNat (made.toNat + n)) rest := by
  induction n generalizing made with
  | zero => simp
  | succ n ih =>
    have hs : made.toNat + 1 < UInt32.size := by have := p.maxAttempts_bounds.2; omega
    have hn := toNat_count made hs
    have ht := turn_again p m made (peer (made.toNat + 1)) (by omega) (hr 0 (by omega))
    have hi := ih (made + 1) (by omega) (by
      intro i hi
      have := hr (i + 1) (by omega)
      rwa [hn, show made.toNat + 1 + 1 + i = made.toNat + 1 + (i + 1) by omega])
    rw [hn] at hi
    rw [List.range'_succ, List.map_cons, List.cons_append, play, ht]
    simp only
    rw [hi, show made.toNat + 1 + n = made.toNat + (n + 1) by omega]

end Loop

theorem deliver_last (p : Params) (m : Http.Method) (peer : Nat → Attempt) (draw : Nat → Nat) :
    ∃ k, 1 ≤ k ∧ k ≤ p.maxAttempts ∧
      (p.deliver m peer draw).attempts = (List.range' 1 k).map peer ∧
      (p.deliver m peer draw).outcome = (peer k).outcome k ∧
      (∀ i, 1 ≤ i → i < k → (peer i).mayRepeat m = true) ∧ p.EndsAt m k (peer k) := by
  have hb := p.maxAttempts_bounds
  obtain ⟨j, hj, ha, ho, hr, hl⟩ := Delivery.run_attempts p m peer draw 1 (p.maxAttempts - 1)
  refine ⟨1 + j, by omega, by omega, ?_, ho, ?_, ?_⟩
  · rw [Nat.add_comm 1 j]
    exact ha
  · intro i h1 hi
    have := hr (i - 1) (by omega)
    rwa [Nat.add_sub_cancel' h1] at this
  · rw [endsAt_iff]
    rcases hl with h | h
    · exact Or.inr (by omega)
    · exact Or.inl h

/-- The loop ends with the first attempt that ends it, and asks for more on anything shorter. -/
theorem play_attempts (p : Params) (m : Http.Method) (peer : Nat → Attempt) (k : Nat)
    (hk : 1 ≤ k) (hle : k ≤ p.maxAttempts)
    (hr : ∀ i, 1 ≤ i → i < k → (peer i).mayRepeat m = true) (he : p.EndsAt m k (peer k)) :
    (∀ n < k, p.play m 0 ((List.range' 1 n).map peer) = some (.again (UInt32.ofNat n))) ∧
    (∀ n, k ≤ n → p.play m 0 ((List.range' 1 n).map peer) =
      some (.over (UInt32.ofNat k) ((peer k).outcome k))) := by
  have hb := p.maxAttempts_bounds
  have again (n : Nat) (hn : n < k) (rest : List Attempt) :
      p.play m 0 ((List.range' 1 n).map peer ++ rest) = p.play m (UInt32.ofNat n) rest := by
    have := play_again p m peer n rest 0 (by simp; omega) (fun i hi => by
      simpa using hr (1 + i) (by omega) (by omega))
    simpa using this
  constructor
  · intro n hn
    simpa [play] using again n hn []
  · intro n hn
    have hs : List.range' 1 n = List.range' 1 (k - 1) ++ k :: List.range' (k + 1) (n - k) := by
      have h := List.range'_append_1 (s := 1) (m := k - 1) (n := n - k + 1)
      rw [List.range'_succ, show 1 + (k - 1) = k by omega,
        show k - 1 + (n - k + 1) = n by omega] at h
      exact h.symm
    have hm : (UInt32.ofNat (k - 1)).toNat = k - 1 :=
      UInt32.toNat_ofNat_of_lt' (by omega)
    have hd : (UInt32.ofNat (k - 1)).toNat + 1 = p.maxAttempts ∨ (peer k).mayRepeat m = false := by
      rw [endsAt_iff] at he
      rcases he with h | h
      · exact Or.inr h
      · exact Or.inl (by omega)
    have ht := turn_over p m (UInt32.ofNat (k - 1)) (peer k) (by omega) hd
    have hc : UInt32.ofNat (k - 1) + 1 = UInt32.ofNat k := by
      apply UInt32.toNat_inj.mp
      rw [toNat_count _ (by omega), hm, UInt32.toNat_ofNat_of_lt' (by omega)]
      omega
    rw [hm, hc, show k - 1 + 1 = k by omega] at ht
    rw [hs, List.map_append, List.map_cons, again (k - 1) (by omega), play, ht]

/-- A delivery makes its attempts in order, as the loop does whose count never
outgrows 32 bits, and stops at the first attempt that ends it. A request that
must not be repeated is attempted again only where no connection was made. -/
theorem deliver_stops (p : Params) (m : Http.Method) (peer : Nat → Attempt) (draw : Nat → Nat) :
    ∃ k : Nat,
      (p.deliver m peer draw).attempts = (List.range' 1 k).map peer ∧
      k ≤ min (p.transmissionMaxRetransmits.toNat + 1) (UInt32.size - 1) ∧
      IsLeast {i | 1 ≤ i ∧ p.EndsAt m i (peer i)} k ∧
      (∀ n < k, p.play m 0 ((List.range' 1 n).map peer) = some (.again (UInt32.ofNat n))) ∧
      (∀ n, k ≤ n → p.play m 0 ((List.range' 1 n).map peer) =
        some (.over (UInt32.ofNat k) (p.deliver m peer draw).outcome)) ∧
      (m.isIdempotent = false →
        (∀ i, 1 ≤ i → i < k → ∃ t reason, (peer i).result = .error (.connect t, reason)) ∧
        (p.deliver m peer draw).attempts.countP (fun a => !a.isUnconnected) ≤ 1) := by
  obtain ⟨k, hk, hle, ha, ho, hr, he⟩ := deliver_last p m peer draw
  obtain ⟨hshort, hlong⟩ := play_attempts p m peer k hk hle hr he
  rw [← ho] at hlong
  refine ⟨k, ha, ?_, ⟨⟨hk, he⟩, ?_⟩, hshort, hlong, ?_⟩
  · exact hle
  · rintro i ⟨hi, hie⟩
    by_contra hlt
    rw [endsAt_iff] at hie
    rcases hie with h | h
    · simp [hr i hi (by omega)] at h
    · omega
  · intro hm
    have hu : ∀ i, 1 ≤ i → i < k → (peer i).isUnconnected = true := fun i h1 h2 =>
      Attempt.mayRepeat_unconnected hm (hr i h1 h2)
    constructor
    · intro i h1 h2
      exact Attempt.isUnconnected_iff.mp (hu i h1 h2)
    · have hs : List.range' 1 k = List.range' 1 (k - 1) ++ [k] := by
        have h := List.range'_append_1 (s := 1) (m := k - 1) (n := 1)
        rw [show 1 + (k - 1) = k by omega, show k - 1 + 1 = k by omega] at h
        exact h.symm
      rw [ha, hs, List.map_append, List.countP_append]
      have hz : ((List.range' 1 (k - 1)).map peer).countP (fun a => !a.isUnconnected) = 0 := by
        rw [List.countP_eq_zero]
        intro a hmem
        obtain ⟨i, hi, rfl⟩ := List.mem_map.mp hmem
        rw [List.mem_range'_1] at hi
        simp [hu i (by omega) (by omega)]
      rw [hz, Nat.zero_add]
      exact List.countP_le_length

end Params

end MatrixGateway.Transport
