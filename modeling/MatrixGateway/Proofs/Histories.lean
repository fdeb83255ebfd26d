import Mathlib.Data.List.Count
import Mathlib.Data.List.Induction

/-!
# What has happened since

A history is the list of steps done. What follows the first, second or later
occurrence of a step grows with the history, and is there from that
occurrence on.
-/

set_option autoImplicit false

namespace MatrixGateway.History

variable {α : Type} [DecidableEq α] {a b : α} {l rest : List α} {k : Nat}

/-- What follows the occurrence of `a` with the number `k`, the first being 0. -/
def since? (a : α) : Nat → List α → Option (List α)
  | _, [] => none
  | 0, b :: l => if b = a then some l else since? a 0 l
  | k + 1, b :: l => if b = a then since? a k l else since? a (k + 1) l

theorem since?_isSome_iff : (since? a k l).isSome = true ↔ k < l.count a := by
  induction l generalizing k with
  | nil => simp [since?]
  | cons b l ih =>
    cases k with
    | zero =>
      by_cases hb : b = a
      · simp [since?, hb]
      · simp [since?, hb, ih]
    | succ k =>
      by_cases hb : b = a
      · simp [since?, hb, ih]
      · simp [since?, hb, ih]

theorem since?_eq_none_iff : since? a k l = none ↔ l.count a ≤ k := by
  rw [← Option.not_isSome_iff_eq_none, since?_isSome_iff, Nat.not_lt]

theorem since?_concat : since? a k (l ++ [b]) =
    match since? a k l with
    | some rest => some (rest ++ [b])
    | none => if b = a ∧ l.count a = k then some [] else none := by
  induction l generalizing k with
  | nil => cases k <;> by_cases hb : b = a <;> simp [since?, hb]
  | cons c l ih =>
    cases k with
    | zero =>
      by_cases hc : c = a
      · simp [since?, hc]
      · simp [since?, hc, ih]
    | succ k =>
      by_cases hc : c = a
      · simp [since?, hc, ih]
      · simp [since?, hc, ih]

theorem since?_append (h : since? a k l = some rest) (more : List α) :
    since? a k (l ++ more) = some (rest ++ more) := by
  induction more using List.reverseRecOn with
  | nil => simpa using h
  | append_singleton more b ih => rw [← List.append_assoc, since?_concat, ih, ← List.append_assoc]

end MatrixGateway.History
