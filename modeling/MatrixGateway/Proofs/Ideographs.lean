import MatrixGateway.Proofs.Domains

/-!
# Ideographs in domain names

The unified ideographs of the basic plane stay as they are in every step that
a name goes through: no table maps, composes, orders or turns them.
-/

set_option autoImplicit false

namespace MatrixGateway.Idna

def firstIdeograph : Nat := 0x4E00
def lastIdeograph : Nat := 0x9FFF

def isIdeograph (n : Nat) : Bool := firstIdeograph ≤ n && n ≤ lastIdeograph

theorem isIdeograph_iff (n : Nat) : isIdeograph n = true ↔ 0x4E00 ≤ n ∧ n ≤ 0x9FFF := by
  rw [isIdeograph, Bool.and_eq_true, decide_eq_true_eq, decide_eq_true_eq]
  rfl

def avoidsIdeographs (low high : Nat) : Bool := high < firstIdeograph || lastIdeograph < low

theorem not_in_range {low high n : Nat} (h : avoidsIdeographs low high = true)
    (hn : isIdeograph n = true) : ¬ (low ≤ n ∧ n ≤ high) := by
  rw [isIdeograph_iff] at hn
  rw [avoidsIdeographs, Bool.or_eq_true, decide_eq_true_eq, decide_eq_true_eq] at h
  change high < 0x4E00 ∨ 0x9FFF < low at h
  omega

/-! ## The tables -/

open CodePoints

def isKeptWord (w : List Char) : Bool := (number 0 w).2.head? = some 'v'

theorem read_kept {w : List Char} (h : isKeptWord w = true) :
    Status.read (number 0 w).2 = .kept := by
  have hhead : (number 0 w).2.head? = some 'v' := of_decide_eq_true h
  cases hn : (number 0 w).2 with
  | nil =>
    rw [hn] at hhead
    contradiction
  | cons c r =>
    rw [hn] at hhead
    obtain rfl : c = 'v' := Option.some.inj hhead
    rfl

set_option maxRecDepth 1000000 in
theorem mapping_scan :
    scanSheets (follow isKeptWord firstIdeograph lastIdeograph) false mappingSheets = true := by
  unfold mappingSheets
  iterate 29 refine scanSheets_cons String.toList_ofList ?_
  decide +kernel

set_option maxRecDepth 1000000 in
theorem directions_scan : ∃ cs, directionText.toList = cs ∧
    scan (follow (!isRightWord ·) firstIdeograph lastIdeograph) false [] cs = true :=
  ⟨_, by unfold directionText; exact String.toList_ofList, by decide +kernel⟩

def isForeignPair (w : List Char) : Bool :=
  !isIdeograph (Pair.read w).composed && !isIdeograph (Pair.read w).second

set_option maxRecDepth 1000000 in
theorem pairs_scan : scanSheets (fun b w => b && isForeignPair w) true pairSheets = true := by
  unfold pairSheets
  iterate 7 refine scanSheets_cons String.toList_ofList ?_
  decide +kernel

set_option maxRecDepth 1000000 in
theorem classes_scan : ∃ cs, classText.toList = cs ∧
    scan (fun b w => b && avoidsIdeographs (ClassRange.read w).low (ClassRange.read w).high)
      true [] cs = true :=
  ⟨_, by unfold classText; exact String.toList_ofList, by decide +kernel⟩

set_option maxRecDepth 1000000 in
theorem marks_scan : ∃ cs, markText.toList = cs ∧
    scan (fun b w => b && avoidsIdeographs (MarkRange.read w).low (MarkRange.read w).high)
      true [] cs = true :=
  ⟨_, by unfold markText; exact String.toList_ofList, by decide +kernel⟩

/-! ## What the tables say of an ideograph -/

section Ideograph

variable {c : Char} (hc : isIdeograph c.toNat = true)

include hc

theorem ideograph_not_ascii : 128 ≤ c.toNat := by
  have := (isIdeograph_iff _).mp hc
  omega

theorem ideograph_mapped : map? c = some [c] := by
  have hscan := mapping_scan
  rw [scanSheets_words] at hscan
  obtain ⟨hlow, hhigh⟩ := (isIdeograph_iff _).mp hc
  obtain ⟨w, hw, hfound⟩ := find?_of_follow Status.read hscan hlow hhigh
  unfold map?
  rw [if_neg (Nat.not_lt.mpr (ideograph_not_ascii hc)), mapping, hfound, read_kept hw]

theorem ideograph_direction : ["R", "AL", "AN"].contains (direction c) = false := by
  obtain ⟨cs, hcs, hscan⟩ := directions_scan
  rw [← hcs, scan_words] at hscan
  obtain ⟨hlow, hhigh⟩ := (isIdeograph_iff _).mp hc
  obtain ⟨w, hw, hfound⟩ := find?_of_follow String.ofList hscan hlow hhigh
  unfold direction
  rw [directions, hfound]
  simpa [isRightWord] using hw

theorem ideograph_class : combiningClass c.toNat = 0 := by
  obtain ⟨cs, hcs, hscan⟩ := classes_scan
  rw [← hcs] at hscan
  have hnone : classes.find? (fun r => r.low ≤ c.toNat && c.toNat ≤ r.high) = none := by
    rw [Array.find?_eq_none]
    intro r hr
    obtain ⟨w, hw, rfl⟩ : ∃ w ∈ words classText, ClassRange.read w = r := by
      simpa [classes] using hr
    have := not_in_range (forall_words hscan w hw) hc
    simpa using this
  rw [combiningClass, hnone]
  rfl

theorem ideograph_not_mark : isMark c = false := by
  obtain ⟨cs, hcs, hscan⟩ := marks_scan
  rw [← hcs] at hscan
  have hnone : marks.any (fun r => r.low ≤ c.toNat && c.toNat ≤ r.high) = false := by
    rw [Array.any_eq_false']
    intro r hr
    obtain ⟨w, hw, rfl⟩ : ∃ w ∈ words markText, MarkRange.read w = r := by
      simpa [marks] using hr
    have := not_in_range (forall_words hscan w hw) hc
    simpa using this
  rw [isMark, hnone, Bool.and_false]

theorem ideograph_whole : parts? c.toNat = none := by
  obtain ⟨hlow, hhigh⟩ := (isIdeograph_iff _).mp hc
  have hsyllable : isSyllable c.toNat = false := by
    rw [isSyllable, syllableStart, decide_eq_false (by omega), Bool.false_and]
  have hnone : pairs.find? (fun p => p.composed = c.toNat) = none := by
    rw [Array.find?_eq_none]
    intro p hp
    obtain ⟨w, hw, rfl⟩ : ∃ w ∈ pairSheets.flatMap words, Pair.read w = p := by
      simpa [pairs] using hp
    have hforeign := forall_sheets pairs_scan w hw
    rw [isForeignPair, Bool.and_eq_true] at hforeign
    intro heq
    rw [of_decide_eq_true heq, hc] at hforeign
    exact absurd hforeign.1 (by decide)
  rw [parts?, hsyllable, hnone]
  rfl

theorem ideograph_apart (a : Nat) : join? a c.toNat = none := by
  obtain ⟨hlow, hhigh⟩ := (isIdeograph_iff _).mp hc
  have hnone : pairs.find? (fun p => p.first = a && p.second = c.toNat) = none := by
    rw [Array.find?_eq_none]
    intro p hp
    obtain ⟨w, hw, rfl⟩ : ∃ w ∈ pairSheets.flatMap words, Pair.read w = p := by
      simpa [pairs] using hp
    have hforeign := forall_sheets pairs_scan w hw
    rw [isForeignPair, Bool.and_eq_true] at hforeign
    intro heq
    rw [of_decide_eq_true (Bool.and_eq_true_iff.mp heq).2, hc] at hforeign
    exact absurd hforeign.2 (by decide)
  unfold join?
  rw [if_neg, if_neg, hnone]
  · rfl
  · rw [tailStart]
    omega
  · rw [vowelStart]
    omega

end Ideograph

end MatrixGateway.Idna
