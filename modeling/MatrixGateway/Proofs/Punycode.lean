import MatrixGateway.Idna.Punycode
import MatrixGateway.Proofs.Texts

/-!
# Characters of encoded labels

A written label holds the ASCII characters of the label, a hyphen and digits;
a label that was read holds characters of its form and characters beyond ASCII.
-/

set_option autoImplicit false

namespace MatrixGateway.Idna.Punycode

/-! ## Writing -/

theorem mem_digits {bias k q : Nat} {c : Char} (hc : c ∈ digits bias k q) :
    ∃ d < 36, c = digitChar d := by
  induction q using Nat.strongRecOn generalizing k with
  | ind q ih =>
    obtain ⟨h1, h26⟩ := threshold_bounds k bias
    rw [digits] at hc
    split at hc
    · exact ⟨q, by omega, List.mem_singleton.mp hc⟩
    · have hmod := Nat.mod_lt (q - threshold k bias) (y := 36 - threshold k bias) (by omega)
      rcases List.mem_cons.mp hc with rfl | hc
      · exact ⟨_, by omega, rfl⟩
      · have := Nat.div_le_self (q - threshold k bias) (36 - threshold k bias)
        exact ih _ (by omega) hc

theorem mem_pass {basic m : Nat} {w : Writer} {d c : Char} (hc : c ∈ (w.pass basic m d).out) :
    c ∈ w.out ∨ ∃ n < 36, c = digitChar n := by
  unfold Writer.pass at hc
  split at hc
  · exact Or.inl hc
  · split at hc
    · rcases List.mem_append.mp hc with hc | hc
      · exact Or.inl hc
      · exact Or.inr (mem_digits hc)
    · exact Or.inl hc

theorem mem_passes {basic m : Nat} {s : List Char} {w : Writer} {c : Char}
    (hc : c ∈ (s.foldl (Writer.pass basic m) w).out) : c ∈ w.out ∨ ∃ n < 36, c = digitChar n := by
  induction s generalizing w with
  | nil => exact Or.inl hc
  | cons d s ih =>
    rcases ih hc with h | h
    · exact mem_pass h
    · exact Or.inr h

theorem mem_write {s : List Char} {basic : Nat} {ms : List Nat} {n : Nat} {w : Writer} {c : Char}
    (hc : c ∈ (w.write s basic ms n).out) : c ∈ w.out ∨ ∃ n < 36, c = digitChar n := by
  induction ms generalizing n w with
  | nil => exact Or.inl hc
  | cons m ms ih =>
    rcases ih hc with h | h
    · exact mem_passes (w := { w with delta := w.delta + (m - n) * (w.placed + 1) }) h
    · exact Or.inr h

theorem mem_encode {s : List Char} {c : Char} (hc : c ∈ encode s) :
    (c ∈ s ∧ c.toNat < 128) ∨ c = '-' ∨ ∃ n < 36, c = digitChar n := by
  rcases List.mem_append.mp hc with hc | hc
  · rcases List.mem_append.mp hc with hc | hc
    · exact Or.inl (by simpa using hc)
    · split at hc
      · contradiction
      · exact Or.inr (Or.inl (List.mem_singleton.mp hc))
  · rcases mem_write hc with h | h
    · contradiction
    · exact Or.inr (Or.inr h)

/-! ## Reading -/

theorem mem_read {cs t : List Char} {r : Reader} (hn : 128 ≤ r.n) (h : Reader.read cs r = some t)
    {c : Char} (hc : c ∈ t) : c ∈ r.out ∨ 128 ≤ c.toNat := by
  induction cs generalizing r with
  | nil =>
    rw [Reader.read] at h
    split at h
    · rw [← Option.some.inj h] at hc
      exact Or.inl hc
    · contradiction
  | cons d cs ih =>
    rw [Reader.read] at h
    obtain ⟨v, -, h⟩ := Option.bind_eq_some_iff.mp h
    simp only at h
    split at h
    · split at h
      · rename_i hvalid
        rcases ih (Nat.le_add_right_of_le hn) h with hmem | hbig
        · rcases List.mem_append.mp hmem with hmem | hmem
          · exact Or.inl (List.mem_of_mem_take hmem)
          · rcases List.mem_cons.mp hmem with rfl | hmem
            · rw [Text.toNat_ofNat hvalid]
              exact Or.inr (Nat.le_add_right_of_le hn)
            · exact Or.inl (List.mem_of_mem_drop hmem)
        · exact Or.inr hbig
      · contradiction
    · have hmem := ih (by exact hn) h
      exact hmem

theorem mem_decode? {s t : List Char} (h : decode? s = some t) {c : Char} (hc : c ∈ t) :
    c ∈ s ∨ 128 ≤ c.toNat := by
  unfold decode? at h
  split at h
  · contradiction
  · rename_i basic rest _ hcut
    rcases mem_read (by simp) h hc with hmem | hbig
    · rw [(Text.cutLast?_eq_some hcut).1]
      exact Or.inl (List.mem_append_left _ hmem)
    · exact Or.inr hbig
  · rcases mem_read (by simp) h hc with hmem | hbig
    · contradiction
    · exact Or.inr hbig

end MatrixGateway.Idna.Punycode
