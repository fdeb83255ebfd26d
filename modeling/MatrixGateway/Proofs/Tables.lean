import Mathlib.Data.List.Basic
import MatrixGateway.Text.CodePoints

/-!
# Tables read from the left

A table of code points is cut from the right, which a check of a long table
cannot follow. A scan from the left visits the same words in the same order,
so what it finds holds of the table.
-/

set_option autoImplicit false

namespace MatrixGateway.CodePoints

/-- Goes over the words of a text with one bit of memory; `w` is the word under way, reversed. -/
def scan (step : Bool → List Char → Bool) (b : Bool) (w : List Char) : List Char → Bool
  | [] => if w = [] then b else step b w.reverse
  | c :: cs =>
    if c = ' ' ∨ c = '\n' then
      if w = [] then scan step b [] cs
      else
        -- Both branches are written out, so that the bit is known before the scan goes on.
        match step b w.reverse with
        | true => scan step true [] cs
        | false => scan step false [] cs
    else scan step b (c :: w) cs

def split (s : List Char) : List (List Char) :=
  s.foldr (fun c ws =>
    if c = ' ' ∨ c = '\n' then [] :: ws
    else match ws with
      | [] => [[c]]
      | w :: ws => (c :: w) :: ws) [[]]

theorem split_ne_nil (s : List Char) : split s ≠ [] := by
  cases s with
  | nil => simp [split]
  | cons c s =>
    rw [split, List.foldr_cons]
    split
    · simp
    · split <;> simp

theorem scan_split (step : Bool → List Char → Bool) (s w p : List Char) (ps : List (List Char))
    (b : Bool) (h : split s = p :: ps) :
    scan step b w s = (((w.reverse ++ p) :: ps).filter (· ≠ [])).foldl step b := by
  induction s generalizing w p ps b with
  | nil =>
    obtain ⟨rfl, rfl⟩ : [] = p ∧ [] = ps := by simpa [split] using h
    rw [scan]
    by_cases hw : w = [] <;> simp [hw]
  | cons c s ih =>
    rw [split, List.foldr_cons] at h
    change (if c = ' ' ∨ c = '\n' then [] :: split s else _) = _ at h
    rw [scan]
    by_cases hc : c = ' ' ∨ c = '\n'
    · rw [if_pos hc] at h ⊢
      obtain ⟨rfl, rfl⟩ : [] = p ∧ split s = ps := by simpa using h
      obtain ⟨q, qs, hq⟩ := List.exists_cons_of_ne_nil (split_ne_nil s)
      have key : ∀ b, scan step b [] s = ((split s).filter (· ≠ [])).foldl step b := by
        intro b
        rw [ih [] q qs b hq, hq]
        rfl
      by_cases hw : w = []
      · rw [if_pos hw, key, hw]
        simp
      · rw [if_neg hw, List.append_nil, List.filter_cons_of_pos (by simpa using hw),
          List.foldl_cons, ← key]
        split <;> rename_i hs <;> rw [hs]
    · rw [if_neg hc] at h ⊢
      obtain ⟨q, qs, hq⟩ := List.exists_cons_of_ne_nil (split_ne_nil s)
      have hsplit : split s = s.foldr (fun c ws =>
        if c = ' ' ∨ c = '\n' then [] :: ws
        else match ws with
          | [] => [[c]]
          | w :: ws => (c :: w) :: ws) [[]] := rfl
      rw [← hsplit, hq] at h
      obtain ⟨rfl, rfl⟩ : c :: q = p ∧ qs = ps := by simpa using h
      rw [ih (c :: w) q qs b hq]
      simp

theorem scan_words (step : Bool → List Char → Bool) (b : Bool) (s : String) :
    scan step b [] s.toList = (words s).foldl step b := by
  obtain ⟨p, ps, hp⟩ := List.exists_cons_of_ne_nil (split_ne_nil s.toList)
  rw [scan_split step s.toList [] p ps b hp, List.reverse_nil, List.nil_append, ← hp]
  rfl

theorem foldl_and {α : Type} (p : α → Bool) (l : List α) (b : Bool) :
    l.foldl (fun b w => b && p w) b = (b && l.all p) := by
  induction l generalizing b with
  | nil => simp
  | cons x l ih => rw [List.foldl_cons, ih, List.all_cons, Bool.and_assoc]

theorem forall_words {p : List Char → Bool} {s : String}
    (h : scan (fun b w => b && p w) true [] s.toList = true) : ∀ w ∈ words s, p w = true := by
  rw [scan_words, foldl_and, Bool.true_and] at h
  exact List.all_eq_true.mp h

def scanSheets (step : Bool → List Char → Bool) (b : Bool) : List String → Bool
  | [] => b
  | t :: ts => scanSheets step (scan step b [] t.toList) ts

theorem scanSheets_cons {step : Bool → List Char → Bool} {b r : Bool} {t : String}
    {ts : List String} {cs : List Char} (ht : t.toList = cs)
    (h : scanSheets step (scan step b [] cs) ts = r) :
    scanSheets step b (t :: ts) = r := by
  rw [scanSheets, ht, h]

theorem scanSheets_words (step : Bool → List Char → Bool) (b : Bool) (ts : List String) :
    scanSheets step b ts = (ts.flatMap words).foldl step b := by
  induction ts generalizing b with
  | nil => rfl
  | cons t ts ih => rw [scanSheets, scan_words, ih, List.flatMap_cons, List.foldl_append]

theorem forall_sheets {p : List Char → Bool} {ts : List String}
    (h : scanSheets (fun b w => b && p w) true ts = true) : ∀ w ∈ ts.flatMap words, p w = true := by
  rw [scanSheets_words, foldl_and, Bool.true_and] at h
  exact List.all_eq_true.mp h

/-! ## Runs -/

section Runs

variable {α : Type}

theorem find?_eq (table : Array (Run α)) (n : Nat) :
    find? table n =
      table.toList.foldl (fun best r => if r.start ≤ n then some r else best) none := by
  rw [find?, Array.foldl_toList]

theorem mem_of_find? {table : Array (Run α)} {n : Nat} {r : Run α} (h : find? table n = some r) :
    r ∈ table.toList ∧ r.start ≤ n := by
  have key : ∀ (l : List (Run α)) (best : Option (Run α)),
      l.foldl (fun best r => if r.start ≤ n then some r else best) best = some r →
      best = some r ∨ (r ∈ l ∧ r.start ≤ n) := by
    intro l
    induction l with
    | nil => exact fun best h => Or.inl h
    | cons q l ih =>
      intro best h
      rcases ih _ h with h | ⟨h1, h2⟩
      · simp only at h
        split at h
        · rename_i hq
          obtain rfl := Option.some.inj h
          exact Or.inr ⟨by simp, hq⟩
        · exact Or.inl h
      · exact Or.inr ⟨by simp [h1], h2⟩
  rw [find?_eq] at h
  rcases key _ _ h with h | h
  · contradiction
  · exact h

/-- Remembers whether the last run up to `low` is good, as long as no other begins up to `high`. -/
def follow (good : List Char → Bool) (low high : Nat) (b : Bool) (w : List Char) : Bool :=
  if (number 0 w).1 ≤ low then good w else b && high < (number 0 w).1

theorem find?_of_follow (read : List Char → α) {good : List Char → Bool} {low high : Nat}
    {ws : List (List Char)} (h : ws.foldl (follow good low high) false = true) {n : Nat}
    (hlow : low ≤ n) (hhigh : n ≤ high) :
    ∃ w, good w = true ∧ find? (runs read ws) n = some ⟨(number 0 w).1, read (number 0 w).2⟩ := by
  let run (w : List Char) : Run α := ⟨(number 0 w).1, read (number 0 w).2⟩
  have key : ∀ (ws : List (List Char)) (b : Bool) (best : Option (Run α)),
      (b = true → ∃ w, good w = true ∧ best = some (run w)) →
      ws.foldl (follow good low high) b = true →
      ∃ w, good w = true ∧
        (ws.map run).foldl (fun best r => if r.start ≤ n then some r else best) best =
          some (run w) := by
    intro ws
    induction ws with
    | nil => exact fun b best hbest hb => hbest hb
    | cons v ws ih =>
      intro b best hbest hfold
      rw [List.map_cons, List.foldl_cons]
      refine ih _ _ (fun hb => ?_) hfold
      unfold follow at hb
      split at hb
      · rename_i hv
        exact ⟨v, hb, if_pos (Nat.le_trans hv hlow)⟩
      · rw [Bool.and_eq_true, decide_eq_true_eq] at hb
        obtain ⟨w, hw, hbest⟩ := hbest hb.1
        refine ⟨w, hw, (if_neg ?_).trans hbest⟩
        change ¬ (number 0 v).1 ≤ n
        omega
  rw [find?_eq]
  exact key ws false none (by simp) h

end Runs

end MatrixGateway.CodePoints
