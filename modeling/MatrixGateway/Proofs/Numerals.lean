import MatrixGateway.Text.Numeral

/-!
# What numerals say

A text says a number if it is one or more digits, perhaps behind a plus sign; zeros in front do
not count. The reader takes the texts that say a number up to its limit and no others. It tells that
a number is too large where a front part of the text already says one beyond the limit.
-/

set_option autoImplicit false

namespace MatrixGateway.Numeral

def Denotes (s : List Char) (n : Nat) : Prop :=
  ∃ ds, ds ≠ [] ∧ (∀ c ∈ ds, c.isDigit = true) ∧ (s = ds ∨ s = '+' :: ds) ∧
    Nat.ofDigitChars 10 ds 0 = n

/-- A front part of the text is a numeral for a number beyond the limit. -/
def Outgrows (limit : Nat) (s : List Char) : Prop :=
  ∃ front n, front <+: s ∧ Denotes front n ∧ limit < n

theorem denotes_plus_iff {cs : List Char} {n : Nat} : Denotes ('+' :: cs) n ↔
    cs ≠ [] ∧ (∀ c ∈ cs, c.isDigit = true) ∧ Nat.ofDigitChars 10 cs 0 = n := by
  constructor
  · rintro ⟨ds, hne, hdigits, rfl | hds, hvalue⟩
    · exact absurd (hdigits '+' List.mem_cons_self) (by decide)
    · obtain rfl := (List.cons.inj hds).2
      exact ⟨hne, hdigits, hvalue⟩
  · rintro ⟨hne, hdigits, hvalue⟩
    exact ⟨cs, hne, hdigits, Or.inr rfl, hvalue⟩

theorem denotes_iff {c : Char} {cs : List Char} {n : Nat} (h : c ≠ '+') : Denotes (c :: cs) n ↔
    (∀ d ∈ c :: cs, d.isDigit = true) ∧ Nat.ofDigitChars 10 (c :: cs) 0 = n := by
  constructor
  · rintro ⟨ds, hne, hdigits, rfl | hds, hvalue⟩
    · exact ⟨hdigits, hvalue⟩
    · exact absurd (List.cons.inj hds).1 h
  · rintro ⟨hdigits, hvalue⟩
    exact ⟨c :: cs, List.cons_ne_nil c cs, hdigits, Or.inl rfl, hvalue⟩

/-! ## Runs of digits -/

theorem le_ofDigitChars (ds : List Char) (value : Nat) : value ≤ Nat.ofDigitChars 10 ds value := by
  induction ds generalizing value with
  | nil => exact Nat.le_refl value
  | cons d ds ih =>
    rw [Nat.ofDigitChars_cons]
    exact Nat.le_trans (by omega) (ih _)

theorem ofDigitChars_step (c : Char) (cs : List Char) (value : Nat) :
    Nat.ofDigitChars 10 (c :: cs) value = Nat.ofDigitChars 10 cs (value * 10 + (c.toNat - 48)) := by
  rw [Nat.ofDigitChars_cons, Nat.mul_comm]
  rfl

theorem digits_eq_ok_iff {limit value n : Nat} {cs : List Char} (h : value ≤ limit) :
    digits limit value cs = .ok n ↔
      (∀ c ∈ cs, c.isDigit = true) ∧ Nat.ofDigitChars 10 cs value = n ∧ n ≤ limit := by
  induction cs generalizing value with
  | nil =>
    simp only [digits, Except.ok.injEq, Nat.ofDigitChars_nil, List.not_mem_nil, false_implies,
      implies_true, true_and]
    exact ⟨fun hn => ⟨hn, hn ▸ h⟩, fun hn => hn.1⟩
  | cons c cs ih =>
    rw [digits, List.forall_mem_cons, ofDigitChars_step]
    by_cases hc : c.isDigit = true
    · rw [if_pos hc]
      simp only [hc, true_and]
      split
      · rename_i hfits
        exact ih hfits
      · rename_i hlarge
        have hle := le_ofDigitChars cs (value * 10 + (c.toNat - 48))
        exact ⟨fun herr => (nomatch herr), fun ⟨_, hn, hlimit⟩ => absurd (hn ▸ hle) (by omega)⟩
    · rw [if_neg hc]
      exact ⟨fun herr => (nomatch herr), fun hn => absurd hn.1.1 hc⟩

theorem digits_eq_tooLarge_iff {limit value : Nat} {cs : List Char} (h : value ≤ limit) :
    digits limit value cs = .error .tooLarge ↔ ∃ front, front <+: cs ∧
      (∀ c ∈ front, c.isDigit = true) ∧ limit < Nat.ofDigitChars 10 front value := by
  induction cs generalizing value with
  | nil =>
    refine ⟨fun herr => (nomatch herr), fun ⟨front, hfront, _, hlarge⟩ => ?_⟩
    rw [List.prefix_nil.mp hfront, Nat.ofDigitChars_nil] at hlarge
    omega
  | cons c cs ih =>
    -- a front part that says anything more than `value` begins with `c`
    have hbegins : (∃ front, front <+: c :: cs ∧ (∀ d ∈ front, d.isDigit = true) ∧
        limit < Nat.ofDigitChars 10 front value) ↔
        c.isDigit = true ∧ ∃ front, front <+: cs ∧ (∀ d ∈ front, d.isDigit = true) ∧
          limit < Nat.ofDigitChars 10 front (value * 10 + (c.toNat - 48)) := by
      constructor
      · rintro ⟨front, hfront, hdigits, hlarge⟩
        rcases List.prefix_cons_iff.mp hfront with rfl | ⟨more, rfl, hmore⟩
        · rw [Nat.ofDigitChars_nil] at hlarge
          omega
        · rw [ofDigitChars_step] at hlarge
          obtain ⟨hc, hdigits⟩ := List.forall_mem_cons.mp hdigits
          exact ⟨hc, more, hmore, hdigits, hlarge⟩
      · rintro ⟨hc, more, hmore, hdigits, hlarge⟩
        refine ⟨c :: more, List.cons_prefix_cons.mpr ⟨rfl, hmore⟩,
          List.forall_mem_cons.mpr ⟨hc, hdigits⟩, ?_⟩
        rwa [ofDigitChars_step]
    rw [digits, hbegins]
    by_cases hc : c.isDigit = true
    · rw [if_pos hc]
      simp only [hc, true_and]
      split
      · rename_i hfits
        exact ih hfits
      · rename_i hlarge
        exact ⟨fun _ => ⟨[], List.nil_prefix, by simp, Nat.not_le.mp hlarge⟩, fun _ => rfl⟩
    · rw [if_neg hc]
      exact ⟨fun herr => (nomatch herr), fun hdigit => absurd hdigit.1 hc⟩

theorem digits_ne_empty (limit value : Nat) (cs : List Char) :
    digits limit value cs ≠ .error .empty := by
  induction cs generalizing value with
  | nil => exact fun h => nomatch h
  | cons c cs ih =>
    rw [digits]
    split
    · simp only
      split
      · exact ih _
      · exact fun h => nomatch h
    · exact fun h => nomatch h

/-! ## Numerals with a limit -/

theorem read_plus (limit : Nat) {cs : List Char} (h : cs ≠ []) :
    read limit ('+' :: cs) = digits limit 0 cs := by
  cases cs with
  | nil => contradiction
  | cons d ds => rfl

theorem read_unsigned (limit : Nat) {c : Char} (cs : List Char) (h : c ≠ '+') :
    read limit (c :: cs) = digits limit 0 (c :: cs) := by
  unfold read
  split
  · contradiction
  · exact absurd (List.cons.inj ‹_›).1 h
  · exact absurd (List.cons.inj ‹_›).1 h
  · rfl

theorem read_eq_ok_iff {limit n : Nat} {s : List Char} :
    read limit s = .ok n ↔ Denotes s n ∧ n ≤ limit := by
  cases s with
  | nil =>
    refine ⟨fun herr => (nomatch herr), fun ⟨⟨ds, hne, _, hds, _⟩, _⟩ => ?_⟩
    rcases hds with rfl | hds
    · contradiction
    · contradiction
  | cons c cs =>
    by_cases hc : c = '+'
    · subst hc
      rw [denotes_plus_iff]
      by_cases hcs : cs = []
      · subst hcs
        exact ⟨fun herr => (nomatch herr), fun hmeant => absurd rfl hmeant.1.1⟩
      · rw [read_plus limit hcs, digits_eq_ok_iff (Nat.zero_le limit), and_assoc, and_assoc]
        exact ⟨fun h => ⟨hcs, h⟩, fun h => h.2⟩
    · rw [denotes_iff hc, read_unsigned limit cs hc, digits_eq_ok_iff (Nat.zero_le limit),
        and_assoc]

theorem read_eq_tooLarge_iff {limit : Nat} {s : List Char} :
    read limit s = .error .tooLarge ↔ Outgrows limit s := by
  cases s with
  | nil =>
    refine ⟨fun herr => (nomatch herr), fun ⟨front, n, hfront, ⟨ds, hne, _, hds, _⟩, _⟩ => ?_⟩
    rw [List.prefix_nil.mp hfront] at hds
    rcases hds with rfl | hds
    · contradiction
    · contradiction
  | cons c cs =>
    by_cases hc : c = '+'
    · subst hc
      have hfronts : Outgrows limit ('+' :: cs) ↔ ∃ front, front <+: cs ∧
          (∀ d ∈ front, d.isDigit = true) ∧ limit < Nat.ofDigitChars 10 front 0 := by
        constructor
        · rintro ⟨front, n, hfront, hmeant, hlarge⟩
          rcases List.prefix_cons_iff.mp hfront with rfl | ⟨more, rfl, hmore⟩
          · obtain ⟨ds, hne, -, rfl | hds, -⟩ := hmeant
            · contradiction
            · contradiction
          · obtain ⟨-, hdigits, rfl⟩ := denotes_plus_iff.mp hmeant
            exact ⟨more, hmore, hdigits, hlarge⟩
        · rintro ⟨front, hfront, hdigits, hlarge⟩
          have hne : front ≠ [] := by
            rintro rfl
            exact absurd hlarge (Nat.not_lt_zero limit)
          exact ⟨'+' :: front, _, List.cons_prefix_cons.mpr ⟨rfl, hfront⟩,
            denotes_plus_iff.mpr ⟨hne, hdigits, rfl⟩, hlarge⟩
      rw [hfronts]
      by_cases hcs : cs = []
      · subst hcs
        refine ⟨fun herr => (nomatch herr), fun ⟨front, hfront, _, hlarge⟩ => ?_⟩
        rw [List.prefix_nil.mp hfront] at hlarge
        exact absurd hlarge (Nat.not_lt_zero limit)
      · rw [read_plus limit hcs, digits_eq_tooLarge_iff (Nat.zero_le limit)]
    · rw [read_unsigned limit cs hc, digits_eq_tooLarge_iff (Nat.zero_le limit)]
      constructor
      · rintro ⟨front, hfront, hdigits, hlarge⟩
        have hne : front ≠ [] := by
          rintro rfl
          exact absurd hlarge (Nat.not_lt_zero limit)
        exact ⟨front, _, hfront, ⟨front, hne, hdigits, Or.inl rfl, rfl⟩, hlarge⟩
      · rintro ⟨front, n, hfront, ⟨ds, hne, hdigits, rfl | hds, rfl⟩, hlarge⟩
        · exact ⟨front, hfront, hdigits, hlarge⟩
        · rw [hds] at hfront
          exact absurd (List.cons_prefix_cons.mp hfront).1.symm hc

theorem read_eq_empty_iff {limit : Nat} {s : List Char} :
    read limit s = .error .empty ↔ s = [] := by
  refine ⟨fun h => ?_, fun h => h ▸ rfl⟩
  unfold read at h
  split at h
  · rfl
  · exact nomatch h
  · exact absurd h (digits_ne_empty _ _ _)
  · exact absurd h (digits_ne_empty _ _ _)

theorem read_eq_error_iff {limit : Nat} {s : List Char} {cause : NumeralError} (h : s ≠ []) :
    read limit s = .error cause ↔ (¬ ∃ n ≤ limit, Denotes s n) ∧
      (cause = .tooLarge ∧ Outgrows limit s ∨ cause = .invalidDigit ∧ ¬ Outgrows limit s) := by
  rw [← read_eq_tooLarge_iff]
  cases hread : read limit s with
  | ok n =>
    obtain ⟨hmeant, hlimit⟩ := read_eq_ok_iff.mp hread
    exact ⟨fun herr => (nomatch herr), fun ⟨hnone, _⟩ => absurd ⟨n, hlimit, hmeant⟩ hnone⟩
  | error actual =>
    have hnone : ¬ ∃ n ≤ limit, Denotes s n := by
      rintro ⟨n, hlimit, hmeant⟩
      exact nomatch (read_eq_ok_iff.mpr ⟨hmeant, hlimit⟩).symm.trans hread
    have hempty : actual ≠ .empty := fun he => h (read_eq_empty_iff.mp (he ▸ hread))
    cases actual with
    | empty => contradiction
    | invalidDigit => simp [hnone, eq_comm]
    | tooLarge => simp [hnone, eq_comm]

/-! ## Numbers of one size -/

theorem read?_eq_some_iff {limit n : Nat} {s : List Char} :
    read? limit s = some n ↔ Denotes s n ∧ n ≤ limit := by
  rw [← read_eq_ok_iff, read?]
  cases read limit s with
  | error e => exact ⟨fun h => (nomatch h), fun h => nomatch h⟩
  | ok m => exact ⟨fun h => congrArg _ (Option.some.inj h), fun h => congrArg _ (Except.ok.inj h)⟩

theorem port?_eq_some_iff {s : List Char} {p : UInt16} : port? s = some p ↔ Denotes s p.toNat := by
  rw [port?, Option.map_eq_some_iff]
  constructor
  · rintro ⟨n, hn, rfl⟩
    obtain ⟨hmeant, hlimit⟩ := read?_eq_some_iff.mp hn
    rwa [Nat.toUInt16, UInt16.toNat_ofNat_of_lt' (Nat.lt_succ_of_le hlimit)]
  · intro hmeant
    have hlt := p.toNat_lt
    exact ⟨p.toNat, read?_eq_some_iff.mpr ⟨hmeant, by omega⟩, UInt16.ofNat_toNat⟩

theorem mem_port? {s : List Char} {p : UInt16} (h : port? s = some p) :
    ∀ c ∈ s, c.isDigit = true ∨ c = '+' := by
  obtain ⟨ds, -, hdigits, hds, -⟩ := port?_eq_some_iff.mp h
  intro c hc
  rcases hds with rfl | rfl
  · exact Or.inl (hdigits c hc)
  · rcases List.mem_cons.mp hc with rfl | hc
    · exact Or.inr rfl
    · exact Or.inl (hdigits c hc)

end MatrixGateway.Numeral
