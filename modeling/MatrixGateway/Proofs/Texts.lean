import Mathlib.Data.List.TakeWhile
import MatrixGateway.Text.Pieces

/-!
# Characters and pieces of texts

What the cutting functions find: the pieces of a joined text are its parts,
no piece holds a separator, and a mark is found in a text exactly where the
text has it as an infix. A fact about ASCII characters is one about 128 numbers.
-/

set_option autoImplicit false

namespace MatrixGateway.Text

/-! ## Characters -/

theorem toNat_ofNat {n : Nat} (h : n.isValidChar) : (Char.ofNat n).toNat = n := by
  have hn : Char.ofNat n = Char.ofNatAux n h := dif_pos h
  rw [hn]
  rfl

theorem of_ascii {P : Char → Prop} (h : ∀ n < 128, P (Char.ofNat n)) {c : Char}
    (hc : c.toNat < 128) : P c := by
  have := h c.toNat hc
  rwa [Char.ofNat_toNat] at this

theorem toNat_toLower (c : Char) :
    c.toLower.toNat = if 65 ≤ c.toNat ∧ c.toNat ≤ 90 then c.toNat + 32 else c.toNat := by
  by_cases hc : c.toNat < 128
  · exact of_ascii (P := fun c => c.toLower.toNat =
      if 65 ≤ c.toNat ∧ c.toNat ≤ 90 then c.toNat + 32 else c.toNat) (by decide) hc
  · have hu : ¬ (c.val ≥ 'A'.val ∧ c.val ≤ 'Z'.val) := by
      rintro ⟨-, h⟩
      have : c.toNat ≤ 90 := h
      omega
    have hkept : c.toLower = c := dif_neg hu
    rw [hkept, if_neg (by omega)]

theorem toLower_eq_iff (c d : Char) :
    c.toLower = d ↔ (c = d ∧ ¬ (65 ≤ c.toNat ∧ c.toNat ≤ 90)) ∨
      (65 ≤ c.toNat ∧ c.toNat ≤ 90 ∧ d.toNat = c.toNat + 32) := by
  rw [← Char.toNat_inj, ← Char.toNat_inj, toNat_toLower]
  split <;> omega

section Pieces

variable (sep : Char → Bool)

theorem pieces_unseparated (s : List Char) (h : ∀ c ∈ s, sep c = false) : pieces sep s = [s] := by
  induction s with
  | nil => rfl
  | cons c s ih =>
    have hc := h c (by simp)
    rw [pieces, ih fun d hd => h d (by simp [hd])]
    simp [hc]

theorem pieces_append (a b : List Char) (d : Char) (hd : sep d = true) :
    pieces sep (a ++ d :: b) = pieces sep a ++ pieces sep b := by
  induction a with
  | nil => simp [pieces, hd]
  | cons c a ih =>
    have hne := pieces_ne_nil sep a
    rw [List.cons_append, pieces, ih, pieces]
    by_cases hc : sep c = true
    · simp [hc]
    · cases hp : pieces sep a with
      | nil => contradiction
      | cons p ps => simp [hc]

theorem pieces_intercalate (d : Char) (hd : sep d = true) (ps : List (List Char)) (hne : ps ≠ [])
    (h : ∀ p ∈ ps, ∀ c ∈ p, sep c = false) : pieces sep ([d].intercalate ps) = ps := by
  induction ps with
  | nil => contradiction
  | cons p ps ih =>
    have hp := h p (by simp)
    cases ps with
    | nil => simpa using pieces_unseparated sep p hp
    | cons q ps =>
      rw [List.intercalate_cons_cons, List.append_assoc, List.singleton_append,
        pieces_append sep p _ d hd, pieces_unseparated sep p hp,
        ih (by simp) fun q hq => h q (by simp [hq])]
      rfl

theorem mem_pieces {s p : List Char} (hp : p ∈ pieces sep s) {c : Char} (hc : c ∈ p) :
    sep c = false ∧ c ∈ s := by
  induction s generalizing p with
  | nil =>
    simp only [pieces, List.mem_singleton] at hp
    subst hp
    contradiction
  | cons d s ih =>
    have hne := pieces_ne_nil sep s
    rw [pieces] at hp
    split at hp
    · rcases List.mem_cons.mp hp with rfl | hp
      · contradiction
      · exact ⟨(ih hp hc).1, by simp [(ih hp hc).2]⟩
    · rename_i hd
      split at hp
      · contradiction
      · rename_i q qs hq
        rcases List.mem_cons.mp hp with rfl | hp
        · rcases List.mem_cons.mp hc with rfl | hc
          · exact ⟨by simpa using hd, by simp⟩
          · have := ih (p := q) (by simp [hq]) hc
            exact ⟨this.1, by simp [this.2]⟩
        · have := ih (p := p) (by simp [hq, hp]) hc
          exact ⟨this.1, by simp [this.2]⟩

theorem flatMap_pieces (d : Char) (s : List Char)
    (h : ∀ c ∈ s, sep c = true → c = d) : (pieces sep s).flatMap (d :: ·) = d :: s := by
  induction s with
  | nil => simp [pieces]
  | cons c s ih =>
    have hs := ih fun e he => h e (by simp [he])
    have hne := pieces_ne_nil sep s
    rw [pieces]
    split
    · rename_i hc
      rw [List.flatMap_cons, hs, h c (by simp) hc]
      rfl
    · split
      · contradiction
      · rename_i p ps hp
        rw [hp, List.flatMap_cons] at hs
        rw [List.flatMap_cons]
        simpa using hs

end Pieces

theorem mem_intercalate {α : Type} {d c : α} {ps : List (List α)} (hc : c ∈ [d].intercalate ps) :
    c = d ∨ ∃ p ∈ ps, c ∈ p := by
  induction ps with
  | nil => contradiction
  | cons p ps ih =>
    cases ps with
    | nil => exact Or.inr ⟨p, by simp, by simpa using hc⟩
    | cons q ps =>
      rw [List.intercalate_cons_cons, List.append_assoc, List.singleton_append] at hc
      rcases List.mem_append.mp hc with hc | hc
      · exact Or.inr ⟨p, by simp, hc⟩
      · rcases List.mem_cons.mp hc with rfl | hc
        · exact Or.inl rfl
        · rcases ih hc with h | ⟨r, hr, hcr⟩
          · exact Or.inl h
          · exact Or.inr ⟨r, by simp [hr], hcr⟩

theorem drop_takeWhile {α : Type} (p : α → Bool) (s : List α) :
    s.drop (s.takeWhile p).length = s.dropWhile p := by
  have h : (s.takeWhile p ++ s.dropWhile p).drop (s.takeWhile p).length = s.dropWhile p :=
    List.drop_left
  rwa [List.takeWhile_append_dropWhile] at h

/-! ## Marks -/

theorem cut?_isSome (mark s : List Char) : (cut? mark s).isSome = true ↔ mark <:+: s := by
  induction s with
  | nil =>
    rw [List.infix_nil, cut?]
    split <;> simp_all
  | cons c s ih =>
    rw [List.infix_cons_iff, ← ih, cut?, ← List.isPrefixOf_iff_prefix]
    split <;> rename_i h <;> simp [h]

theorem has_iff (mark s : List Char) : has mark s = true ↔ mark <:+: s := cut?_isSome mark s

theorem cutLast?_eq_none {c : Char} {s : List Char} (h : c ∉ s) : cutLast? c s = none := by
  have hd : s.reverse.dropWhile (· ≠ c) = [] := by
    rw [List.dropWhile_eq_nil_iff]
    intro d hd
    have : d ≠ c := fun e => h (by simpa [e] using hd)
    simpa using this
  simp only [cutLast?, hd]

theorem cutLast?_append {c : Char} (a : List Char) {b : List Char} (h : c ∉ b) :
    cutLast? c (a ++ c :: b) = some (a, b) := by
  have hb : ∀ d ∈ b.reverse, (d ≠ c : Bool) = true := fun d hd => by
    have : d ≠ c := fun e => h (by simpa [e] using hd)
    simpa using this
  have hrev : (a ++ c :: b).reverse = b.reverse ++ c :: a.reverse := by simp
  simp only [cutLast?, hrev]
  rw [List.dropWhile_append_of_pos hb, List.takeWhile_append_of_pos hb]
  simp

theorem cutLast?_eq_some {c : Char} {s a b : List Char} (h : cutLast? c s = some (a, b)) :
    s = a ++ c :: b ∧ c ∉ b := by
  have hs := List.takeWhile_append_dropWhile (p := (· ≠ c)) (l := s.reverse)
  have hb : ∀ d ∈ s.reverse.takeWhile (· ≠ c), d ≠ c := fun d hd => by
    simpa using List.mem_takeWhile_imp hd
  simp only [cutLast?] at h
  split at h
  · contradiction
  · rename_i d before hd
    obtain rfl : d = c := by
      have := List.head?_dropWhile_not (· ≠ c) s.reverse
      rw [hd] at this
      simpa using this
    rw [Option.some.injEq, Prod.mk.injEq] at h
    obtain ⟨rfl, rfl⟩ := h
    refine ⟨?_, fun hmem => hb d (by simpa using hmem) rfl⟩
    rw [hd] at hs
    simpa using (congrArg List.reverse hs).symm

end MatrixGateway.Text
