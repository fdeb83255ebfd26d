import MatrixGateway.Proofs.Hosts

/-!
# Names hold no brackets

A bracket is never composed with another character, so it is still there when
a name has been decoded, mapped and composed, and is refused. A host is an
address in brackets or has no bracket in it.
-/

set_option autoImplicit false

namespace MatrixGateway

namespace Idna

/-! ## Characters that stay in a composed text -/

/-- A code point that comes apart into nothing and joins with nothing. -/
structure IsApart (n : Nat) : Prop where
  parts : parts? n = none
  second : ∀ a, join? a n = none
  first : ∀ b, join? n b = none

theorem sortMarks_perm (ns : List Nat) : (sortMarks ns).Perm ns := by
  induction ns with
  | nil => exact List.Perm.refl _
  | cons n ns ih =>
    rw [sortMarks]
    simp only
    split
    · exact ih.cons n
    · have hprefix : ((sortMarks ns).takeWhile fun m => combiningClass m ≠ 0).takeWhile
          (fun m => combiningClass m < combiningClass n) <+: sortMarks ns :=
        (List.takeWhile_prefix _).trans (List.takeWhile_prefix _)
      refine List.perm_middle.trans (List.Perm.cons n ?_)
      rw [List.prefix_iff_eq_append.mp hprefix]
      exact ih

theorem mem_composeFrom {n : Nat} (hn : IsApart n) (s : Nat) (skipped : List Nat) (last : Nat)
    (ns : List Nat) (h : n ∈ s :: skipped ++ ns) : n ∈ composeFrom s skipped last ns := by
  induction ns generalizing s skipped last with
  | nil => simpa [composeFrom] using h
  | cons m ns ih =>
    rw [composeFrom]
    split
    · rename_i c hc
      have hjoin : join? s m = some c := by
        split at hc
        · contradiction
        · exact hc
      have hs : n ≠ s := fun e => by simp [← e, hn.first] at hjoin
      have hm : n ≠ m := fun e => by simp [← e, hn.second] at hjoin
      apply ih
      simpa [hs, hm] using Or.inr h
    · split
      · have hcut : n ∈ s :: skipped ∨ n ∈ m :: [] ++ ns := by simpa [or_assoc] using h
        rcases hcut with hfront | hrest
        · exact List.mem_append_left _ (by simpa using hfront)
        · exact List.mem_append_right _ (ih m [] 0 hrest)
      · have hmem : n = s ∨ n ∈ skipped ∨ n = m ∨ n ∈ ns := by simpa using h
        apply ih
        simpa [or_left_comm] using hmem

theorem mem_compose {c : Char} (hc : IsApart c.toNat) {s : List Char} (h : c ∈ s) :
    c ∈ compose s := by
  unfold compose
  split
  · exact h
  · have hone : decompose depth c.toNat = [c.toNat] := by
      rw [depth, decompose, hc.parts]
    have hapart : c.toNat ∈ sortMarks (s.flatMap fun c => decompose depth c.toNat) :=
      (sortMarks_perm _).mem_iff.mpr (List.mem_flatMap.mpr ⟨c, h, by rw [hone]; simp⟩)
    simp only
    rw [List.mem_map]
    refine ⟨c.toNat, ?_, Char.ofNat_toNat c⟩
    split
    · rename_i hnil
      rw [hnil] at hapart
      exact hapart
    · rename_i n ns hcons
      rw [hcons] at hapart
      exact mem_composeFrom hc n [] 0 ns (by simpa using hapart)

/-! ## Brackets -/

def isBracket (n : Nat) : Bool := n = 0x5B || n = 0x5D

open CodePoints

def isUnbracketedPair (w : List Char) : Bool :=
  !isBracket (Pair.read w).composed && !isBracket (Pair.read w).first &&
    !isBracket (Pair.read w).second

set_option maxRecDepth 1000000 in
theorem pairs_unbracketed_scan :
    scanSheets (fun b w => b && isUnbracketedPair w) true pairSheets = true := by
  unfold pairSheets
  iterate 7 refine scanSheets_cons String.toList_ofList ?_
  decide +kernel

theorem pairs_unbracketed {p : Pair} (hp : p ∈ pairs) :
    isBracket p.composed = false ∧ isBracket p.first = false ∧ isBracket p.second = false := by
  obtain ⟨w, hw, rfl⟩ : ∃ w ∈ pairSheets.flatMap words, Pair.read w = p := by
    simpa [pairs] using hp
  simpa [isUnbracketedPair, and_assoc] using forall_sheets pairs_unbracketed_scan w hw

theorem isApart_bracket {n : Nat} (hn : isBracket n = true) : IsApart n := by
  have hlow : n < 128 := by
    simp only [isBracket, Bool.or_eq_true, decide_eq_true_eq] at hn
    omega
  have hne : ∀ {m : Nat}, isBracket m = false → m ≠ n := by
    rintro m hm rfl
    rw [hn] at hm
    contradiction
  have hsyllable : isSyllable n = false := by
    rw [isSyllable, syllableStart, decide_eq_false (by omega), Bool.false_and]
  have hcomposed : pairs.find? (fun p => p.composed = n) = none := by
    rw [Array.find?_eq_none]
    intro p hp
    simpa using hne (pairs_unbracketed hp).1
  have hfirst : ∀ b, pairs.find? (fun p => p.first = n && p.second = b) = none := by
    intro b
    rw [Array.find?_eq_none]
    intro p hp
    simp [hne (pairs_unbracketed hp).2.1]
  have hsecond : ∀ a, pairs.find? (fun p => p.first = a && p.second = n) = none := by
    intro a
    rw [Array.find?_eq_none]
    intro p hp
    simp [hne (pairs_unbracketed hp).2.2]
  constructor
  · rw [parts?, hsyllable, hcomposed]
    rfl
  · intro a
    rw [join?, if_neg, if_neg, hsecond]
    · rfl
    · rw [tailStart]
      omega
    · rw [vowelStart]
      omega
  · intro b
    rw [join?, if_neg, if_neg, hfirst]
    · rfl
    · rw [hsyllable]
      simp
    · rw [leadStart]
      omega

/-- No name with a bracket in it is taken to ASCII. -/
theorem toAscii?_bracket {s : List Char} {c : Char} (hc : isBracket c.toNat = true) (h : c ∈ s) :
    toAscii? s = none := by
  have hbracket : c = '[' ∨ c = ']' := by
    simp only [isBracket, Bool.or_eq_true, decide_eq_true_eq] at hc
    exact hc.imp Char.toNat_inj.mp Char.toNat_inj.mp
  have hmap : map? c = some [c] := by
    rcases hbracket with rfl | rfl <;> rfl
  have hforbidden : isForbidden c = true := by
    rcases hbracket with rfl | rfl <;> decide
  unfold toAscii?
  simp only [Option.bind_eq_bind]
  cases hm : s.mapM map? with
  | none => rfl
  | some mapped =>
    obtain ⟨t, ht, hct⟩ := exists_mem_of_forall₂ (mapM_eq_some_iff.mp hm).flip h
    obtain rfl : [c] = t := Option.some.inj (hmap.symm.trans hct)
    have hmem : c ∈ compose mapped.flatten :=
      mem_compose (isApart_bracket hc) (List.mem_flatten.mpr ⟨[c], ht, by simp⟩)
    rw [Option.bind_some, if_pos (List.any_eq_true.mpr ⟨c, hmem, hforbidden⟩)]

end Idna

/-! ## Bytes that are decoded to themselves -/

theorem Bytes.mem_text? {bs : Bytes} {t : List Char} (h : text? bs = some t) {b : UInt8}
    (hb : b ∈ bs) (hlt : b < 0x80) : Char.ofNat b.toNat ∈ t := by
  have hfollow : ∀ (a : UInt8) (x : Nat), follow? a = some x → b ≠ a := by
    rintro a x hx rfl
    unfold follow? at hx
    split at hx
    · rename_i hhigh
      rw [UInt8.lt_iff_toNat_lt] at hlt
      rw [UInt8.le_iff_toNat_le] at hhigh
      omega
    · contradiction
  fun_induction text? bs generalizing t with
  | case1 => contradiction
  | case2 a r ha ih =>
    obtain ⟨u, hu, rfl⟩ := Option.map_eq_some_iff.mp h
    rcases List.mem_cons.mp hb with rfl | hb
    · exact List.mem_cons_self
    · exact List.mem_cons_of_mem _ (ih hu hb)
  | case4 a ha _ _ d r ih =>
    obtain ⟨x, hx, h⟩ := Option.bind_eq_some_iff.mp h
    obtain ⟨e, -, h⟩ := Option.bind_eq_some_iff.mp h
    obtain ⟨u, hu, rfl⟩ := Option.map_eq_some_iff.mp h
    have hr : b ∈ r := by
      have h1 : b ≠ a := fun e => ha (e ▸ hlt)
      simpa [h1, hfollow d x hx] using hb
    exact List.mem_cons_of_mem _ (ih hu hr)
  | case6 a ha _ _ _ d e r ih =>
    obtain ⟨x, hx, h⟩ := Option.bind_eq_some_iff.mp h
    obtain ⟨y, hy, h⟩ := Option.bind_eq_some_iff.mp h
    obtain ⟨f, -, h⟩ := Option.bind_eq_some_iff.mp h
    obtain ⟨u, hu, rfl⟩ := Option.map_eq_some_iff.mp h
    have hr : b ∈ r := by
      have h1 : b ≠ a := fun e => ha (e ▸ hlt)
      simpa [h1, hfollow d x hx, hfollow e y hy] using hb
    exact List.mem_cons_of_mem _ (ih hu hr)
  | case8 a ha _ _ _ _ d e f r ih =>
    obtain ⟨x, hx, h⟩ := Option.bind_eq_some_iff.mp h
    obtain ⟨y, hy, h⟩ := Option.bind_eq_some_iff.mp h
    obtain ⟨z, hz, h⟩ := Option.bind_eq_some_iff.mp h
    obtain ⟨g, -, h⟩ := Option.bind_eq_some_iff.mp h
    obtain ⟨u, hu, rfl⟩ := Option.map_eq_some_iff.mp h
    have hr : b ∈ r := by
      have h1 : b ≠ a := fun e => ha (e ▸ hlt)
      simpa [h1, hfollow d x hx, hfollow e y hy, hfollow f z hz] using hb
    exact List.mem_cons_of_mem _ (ih hu hr)
  | _ => contradiction

namespace Url

theorem mem_decode {bs : Bytes} {b : UInt8} (h : b ∈ bs) (hp : b ≠ 37) (hx : isHexByte b = false) :
    b ∈ decode bs := by
  have hdigit : ∀ {d : UInt8} {n : Nat}, hexValue? (Char.ofNat d.toNat) = some n → b ≠ d := by
    rintro d n hd rfl
    rw [isHexByte, hd] at hx
    contradiction
  fun_induction decode bs with
  | case4 c d r m n hm hn ih =>
    have hr : b ∈ r := by simpa [hp, hdigit hm, hdigit hn] using h
    exact List.mem_cons_of_mem _ (ih hr)
  | case5 a c d r m n hm hn ha ih =>
    rcases List.mem_cons.mp h with rfl | h
    · exact List.mem_cons_self
    · exact List.mem_cons_of_mem _ (ih h)
  | case6 a c d r hno ih =>
    rcases List.mem_cons.mp h with rfl | h
    · exact List.mem_cons_self
    · exact List.mem_cons_of_mem _ (ih h)
  | _ => exact h

namespace Host

theorem parse_unbracketed {s : List Char} {h : Host} (hp : parse s = .ok h)
    (hhead : s.head? ≠ some '[') : ∀ c ∈ s, c ≠ '[' ∧ c ≠ ']' := by
  have hnone : ∀ c ∈ s, Idna.isBracket c.toNat = false := by
    intro c hc
    rw [Bool.eq_false_iff]
    intro hbracket
    have hspec : c.toNat < 128 ∧ UInt8.ofNat c.toNat ≠ 37 ∧
        isHexByte (UInt8.ofNat c.toNat) = false := by
      simp only [Idna.isBracket, Bool.or_eq_true, decide_eq_true_eq] at hbracket
      rcases hbracket with h | h <;> rw [h] <;> decide
    obtain ⟨hlt, hpercent, hhex⟩ := hspec
    have hbyte : UInt8.ofNat c.toNat ∈ Bytes.ofText s :=
      List.mem_flatMap.mpr ⟨c, hc, by rw [Bytes.utf8EncodeChar_ascii hlt]; simp⟩
    rw [parse_domain hhead] at hp
    split at hp
    · contradiction
    · rename_i d hd
      obtain ⟨t, ht, hascii⟩ := Option.bind_eq_some_iff.mp hd
      have hmem := Bytes.mem_text? ht (mem_decode hbyte hpercent hhex)
        ((Bytes.ofNat_lt (by omega) _).mpr hlt)
      rw [Bytes.toNat_ofNat (by omega), Char.ofNat_toNat] at hmem
      rw [Idna.toAscii?_bracket hbracket hmem] at hascii
      contradiction
  intro c hc
  have := hnone c hc
  constructor <;> rintro rfl <;> exact absurd this (by decide)

end Host

end Url

end MatrixGateway
