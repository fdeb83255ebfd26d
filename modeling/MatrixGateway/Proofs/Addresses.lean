import Mathlib.Data.List.TakeWhile
import MatrixGateway.Net.Ip
import MatrixGateway.Proofs.Texts
import MatrixGateway.Text.Numeral

/-!
# Numbers and addresses read back from their texts

Digits written in a base are read to the number they were written for. So a
port and a group of an address come back from their digits, and the text of an
address of eight groups, whose longest run of zeros is left out, is read to
that address.
-/

set_option autoImplicit false

namespace MatrixGateway

/-! ## Digits -/

section Digits

theorem mapM_toDigits {b : Nat} (hb : 1 < b) (v : Char → Option Nat)
    (hv : ∀ d < b, v (Nat.digitChar d) = some d) (n : Nat) :
    ∃ ds, (Nat.toDigits b n).mapM v = some ds ∧ (∀ d ∈ ds, d < b) ∧
      ds.foldl (fun n d => n * b + d) 0 = n := by
  induction n using Nat.strongRecOn with
  | ind n ih =>
    by_cases hn : n < b
    · refine ⟨[n], ?_, by simpa using hn, by simp⟩
      simp [Nat.toDigits_of_lt_base hn, hv n hn]
    · have hle : b ≤ n := Nat.le_of_not_lt hn
      have hmod : n % b < b := Nat.mod_lt _ (by omega)
      obtain ⟨ds, hm, hd, hf⟩ := ih (n / b) (Nat.div_lt_self (by omega) hb)
      refine ⟨ds ++ [n % b], ?_, ?_, ?_⟩
      · rw [Nat.toDigits_of_base_le hb hle, List.mapM_append, hm]
        simp [hv _ hmod]
      · intro d hmem
        rcases List.mem_append.mp hmem with h | h
        · exact hd d h
        · rw [List.mem_singleton.mp h]
          exact hmod
      · rw [List.foldl_append, hf, List.foldl_cons, List.foldl_nil, Nat.mul_comm]
        exact Nat.div_add_mod n b

theorem mem_toDigits {b : Nat} (hb : 1 < b) {n : Nat} {c : Char} (hc : c ∈ Nat.toDigits b n) :
    ∃ d < b, c = Nat.digitChar d := by
  induction n using Nat.strongRecOn with
  | ind n ih =>
    by_cases hn : n < b
    · rw [Nat.toDigits_of_lt_base hn, List.mem_singleton] at hc
      exact ⟨n, hn, hc⟩
    · rw [Nat.toDigits_of_base_le hb (Nat.le_of_not_lt hn)] at hc
      rcases List.mem_append.mp hc with hc | hc
      · exact ih (n / b) (Nat.div_lt_self (by omega) hb) hc
      · exact ⟨n % b, Nat.mod_lt _ (by omega), List.mem_singleton.mp hc⟩

theorem Numeral.digits_append (limit value : Nat) (a b : List Char) :
    digits limit value (a ++ b) = (digits limit value a).bind fun n => digits limit n b := by
  induction a generalizing value with
  | nil => rfl
  | cons c a ih =>
    rw [List.cons_append, digits, digits]
    split
    · simp only
      split
      · exact ih _
      · rfl
    · rfl

theorem Numeral.digits_toDigits (limit n : Nat) (h : n ≤ limit) :
    digits limit 0 (Nat.toDigits 10 n) = .ok n := by
  have digit : ∀ d < 10, (Nat.digitChar d).isDigit = true ∧ (Nat.digitChar d).toNat - 48 = d := by
    decide
  induction n using Nat.strongRecOn with
  | ind n ih =>
    by_cases hn : n < 10
    · obtain ⟨h1, h2⟩ := digit n hn
      rw [Nat.toDigits_of_lt_base hn, digits, if_pos h1, h2]
      simp [h, digits]
    · obtain ⟨h1, h2⟩ := digit (n % 10) (by omega)
      rw [Nat.toDigits_of_base_le (by decide) (by omega), digits_append,
        ih (n / 10) (by omega) (by omega)]
      change digits limit (n / 10) [Nat.digitChar (n % 10)] = _
      rw [digits, if_pos h1, h2]
      simp only [show n / 10 * 10 + n % 10 = n by omega]
      simp [h, digits]

theorem Numeral.port?_toDigits (p : UInt16) : port? (Nat.toDigits 10 p.toNat) = some p := by
  have hlt := p.toNat_lt
  have hd := digits_toDigits 65535 p.toNat (by omega)
  have hr : read 65535 (Nat.toDigits 10 p.toNat) = .ok p.toNat := by
    cases hs : Nat.toDigits 10 p.toNat with
    | nil => exact absurd hs Nat.toDigits_ne_nil
    | cons c cs =>
      have hc : c ≠ '+' := by
        rintro rfl
        have := Nat.isDigit_of_mem_toDigits (b := 10) (n := p.toNat) (c := '+') (by decide)
          (by decide) (by simp [hs])
        exact absurd this (by decide)
      rw [hs] at hd
      unfold read
      split <;> simp_all
  simp [port?, read?, hr, Except.toOption]

end Digits

/-! ## Addresses of eight groups -/

namespace Ipv6

def groupDigits (g : Nat) : List Char := Nat.toDigits 16 g

theorem toList_joined (gs : List Nat) :
    (joined gs).toList = [':'].intercalate (gs.map groupDigits) := by
  simp only [joined, String.toList_intercalate, List.map_map]
  congr 1
  apply List.map_congr_left
  intro g _
  simp [digitText, groupDigits]

theorem digitChar_hex : ∀ d < 16, hexValue? (Nat.digitChar d) = some d ∧
    Nat.digitChar d ≠ ':' ∧ Nat.digitChar d ≠ '.' := by
  decide

theorem group?_digits (g : Nat) (h : g < 65536) : group? (groupDigits g) = some g := by
  obtain ⟨ds, hm, -, hf⟩ := mapM_toDigits (b := 16) (by decide) hexValue?
    (fun d hd => (digitChar_hex d hd).1) g
  have hne : groupDigits g ≠ [] := Nat.toDigits_ne_nil
  have hl : ¬ 4 < (groupDigits g).length := by
    have := (Nat.length_toDigits_le_iff (b := 16) (n := g) (k := 4) (by decide) (by decide)).mpr
      (by simpa using h)
    exact Nat.not_lt.mpr this
  unfold group?
  rw [if_neg (by simp [hne, hl]), show (groupDigits g).mapM hexValue? = some ds from hm]
  simp [hf]

theorem groupDigits_unmarked (g : Nat) : ∀ c ∈ groupDigits g, c ≠ ':' ∧ c ≠ '.' := by
  intro c hc
  obtain ⟨d, hd, rfl⟩ := mem_toDigits (by decide) hc
  exact (digitChar_hex d hd).2

theorem pieces_joined (gs : List Nat) (h : gs ≠ []) :
    Text.pieces (· = ':') ([':'].intercalate (gs.map groupDigits)) = gs.map groupDigits := by
  apply Text.pieces_intercalate _ ':' (by simp) _ (by simpa using h)
  intro p hp c hc
  obtain ⟨g, -, rfl⟩ := List.mem_map.mp hp
  simpa using (groupDigits_unmarked g c hc).1

theorem mapM_group? (gs : List Nat) (h : ∀ g ∈ gs, g < 65536) :
    (gs.map groupDigits).mapM group? = some gs := by
  induction gs with
  | nil => rfl
  | cons g gs ih =>
    simp [group?_digits g (h g (by simp)), ih fun x hx => h x (by simp [hx])]

theorem parse?_groupDigits (g : Nat) : Ipv4.parse? (groupDigits g) = none := by
  have hp : Text.pieces (· = '.') (groupDigits g) = [groupDigits g] :=
    Text.pieces_unseparated _ _ fun c hc => by simpa using (groupDigits_unmarked g c hc).2
  unfold Ipv4.parse?
  rw [hp]
  cases h : Ipv4.octet? (groupDigits g) <;> simp [h]

theorem groups?_joined (gs : List Nat) (hne : gs ≠ []) (h : ∀ g ∈ gs, g < 65536) :
    groups? ([':'].intercalate (gs.map groupDigits)) = some gs := by
  obtain ⟨front, last, rfl⟩ := List.eq_nil_or_concat gs |>.resolve_left hne
  have hf : (front.map groupDigits).mapM group? = some front :=
    mapM_group? front fun g hg => h g (by simp [hg])
  have hl := group?_digits last (h last (by simp))
  unfold groups?
  rw [pieces_joined _ hne]
  simp [hf, hl, parse?_groupDigits]

/-! ### The gap -/

theorem nil_mem_pieces_of_infix {s : List Char} (h : [':', ':'] <:+: s) :
    [] ∈ (Text.pieces (· = ':') s).dropLast := by
  obtain ⟨a, b, rfl⟩ := h
  have hne := Text.pieces_ne_nil (· = ':') b
  have hs : a ++ [':', ':'] ++ b = a ++ ':' :: (':' :: b) := by simp
  rw [hs, Text.pieces_append _ _ _ _ (by simp), Text.pieces]
  simp [List.dropLast_append_of_ne_nil, List.dropLast_cons_of_ne_nil hne]

theorem groupDigits_ne_nil (g : Nat) : groupDigits g ≠ [] := Nat.toDigits_ne_nil

/-- No two colons stand in a row in joined groups, nor when one more colon follows. -/
theorem joined_unbroken (gs : List Nat) :
    ¬ [':', ':'] <:+: [':'].intercalate (gs.map groupDigits) ++ [':'] := by
  intro h
  by_cases hgs : gs = []
  · subst hgs
    exact absurd h.length_le (by simp)
  · have hm := nil_mem_pieces_of_infix h
    rw [Text.pieces_append _ _ _ _ (by simp), pieces_joined gs hgs, Text.pieces,
      List.dropLast_concat] at hm
    obtain ⟨g, -, hg⟩ := List.mem_map.mp hm
    exact groupDigits_ne_nil g hg

theorem cut?_colons (front back : List Char) (h : ¬ [':', ':'] <:+: front ++ [':']) :
    Text.cut? [':', ':'] (front ++ ':' :: ':' :: back) = some (front, back) := by
  induction front with
  | nil => simp [Text.cut?, List.isPrefixOf]
  | cons c front ih =>
    have hi : ¬ [':', ':'] <:+: front ++ [':'] := fun hf =>
      h (hf.trans (List.infix_cons (List.infix_refl _)))
    have hp : [':', ':'].isPrefixOf (c :: (front ++ ':' :: ':' :: back)) = false := by
      rw [Bool.eq_false_iff]
      intro hc
      obtain ⟨rfl, hc⟩ : ':' = c ∧ [':'].isPrefixOf (front ++ ':' :: ':' :: back) = true := by
        simpa [List.isPrefixOf] using hc
      apply h
      cases front with
      | nil => exact List.infix_refl _
      | cons d front =>
        obtain rfl : ':' = d := by simpa [List.isPrefixOf] using hc
        exact ⟨[], front ++ [':'], by simp⟩
    rw [List.cons_append, Text.cut?, hp, ih hi]
    rfl

theorem zeros_spec (gs : List Nat) :
    zeros gs ≤ gs.length ∧ gs = List.replicate (zeros gs) 0 ++ gs.drop (zeros gs) := by
  induction gs with
  | nil => exact ⟨Nat.le_refl _, rfl⟩
  | cons g gs ih =>
    cases g with
    | zero =>
      obtain ⟨hle, hz⟩ := ih
      rw [zeros]
      refine ⟨Nat.succ_le_succ hle, ?_⟩
      rw [List.replicate_succ, List.cons_append, List.drop_succ_cons]
      exact congrArg _ hz
    | succ g => exact ⟨Nat.zero_le _, rfl⟩

theorem gap?_spec {gs : List Nat} {i n : Nat} (h : gap? gs = some (i, n)) :
    2 ≤ n ∧ i + n ≤ gs.length ∧ gs = gs.take i ++ List.replicate n 0 ++ gs.drop (i + n) := by
  have key : ∀ i n, gap? gs = some (i, n) → 2 ≤ n ∧ n = zeros (gs.drop i) ∧ i ≤ gs.length := by
    unfold gap?
    refine List.foldlRecOn (motive := fun best => ∀ i n, best = some (i, n) →
      2 ≤ n ∧ n = zeros (gs.drop i) ∧ i ≤ gs.length) _ _ (by simp) ?_
    intro best hb j hj i n hbest
    simp only at hbest
    split at hbest
    · rename_i hz
      simp only [Option.some.injEq, Prod.mk.injEq] at hbest
      obtain ⟨rfl, rfl⟩ := hbest
      exact ⟨hz.1, rfl, Nat.le_of_lt (List.mem_range.mp hj)⟩
    · exact hb i n hbest
  obtain ⟨h2, hn, hi⟩ := key i n h
  obtain ⟨hle, hz⟩ := zeros_spec (gs.drop i)
  rw [← hn] at hle hz
  rw [List.length_drop] at hle
  refine ⟨h2, by omega, ?_⟩
  rw [List.append_assoc, ← List.drop_drop, ← hz, List.take_append_drop]

theorem ofGroups?_groups (a : Ipv6) : ofGroups? (a.groups.toList.map UInt16.toNat) = some a := by
  have hl : (a.groups.toList.map UInt16.toNat).length = 8 := by simp
  have hm : ((a.groups.toList.map UInt16.toNat).map Nat.toUInt16) = a.groups.toList := by
    rw [List.map_map]
    exact (List.map_congr_left fun g _ => UInt16.ofNat_toNat).trans (List.map_id _)
  unfold ofGroups?
  rw [dif_pos hl]
  obtain ⟨groups⟩ := a
  congr 2
  apply Vector.toList_inj.mp
  simpa using hm

theorem parse?_joined (gs : List Nat) (hlen : gs.length = 8) (hlt : ∀ g ∈ gs, g < 65536) :
    parse? (joined gs).toList = ofGroups? gs := by
  have hne : gs ≠ [] := by
    rintro rfl
    simp at hlen
  have hcut : Text.cut? [':', ':'] ([':'].intercalate (gs.map groupDigits)) = none := by
    rw [← Option.not_isSome_iff_eq_none, Text.cut?_isSome]
    exact fun h => joined_unbroken gs (h.trans (List.prefix_append _ _).isInfix)
  rw [toList_joined]
  unfold parse?
  rw [hcut]
  simp [groups?_joined gs hne hlt]

theorem joined_ne_nil (gs : List Nat) (h : gs ≠ []) :
    [':'].intercalate (gs.map groupDigits) ≠ [] := by
  intro hnil
  have hp := pieces_joined gs h
  rw [hnil, Text.pieces] at hp
  obtain ⟨g, -, hg⟩ := List.mem_map.mp (hp ▸ List.mem_singleton_self ([] : List Char))
  exact groupDigits_ne_nil g hg

theorem parse?_gapped (front back : List Nat) (h : front.length + back.length < 8)
    (hf : ∀ g ∈ front, g < 65536) (hb : ∀ g ∈ back, g < 65536) :
    parse? (joined front ++ "::" ++ joined back).toList =
      ofGroups? (front ++ List.replicate (8 - (front.length + back.length)) 0 ++ back) := by
  have htext : (joined front ++ "::" ++ joined back).toList =
      [':'].intercalate (front.map groupDigits) ++
        ':' :: ':' :: [':'].intercalate (back.map groupDigits) := by
    simp [toList_joined]
  have hmissing : 8 - (front.length + back.length) ≠ 0 := by omega
  have hback : back ≠ [] → groups? ([':'].intercalate (back.map groupDigits)) = some back :=
    fun hne => groups?_joined back hne hb
  rw [htext]
  unfold parse?
  rw [cut?_colons _ _ (joined_unbroken _)]
  by_cases hfnil : front = []
  · subst hfnil
    by_cases hbnil : back = []
    · subst hbnil
      rfl
    · have hmissing' : 8 - back.length ≠ 0 := by simpa using hmissing
      simp [if_neg (joined_ne_nil back hbnil), hback hbnil, hmissing']
  · have hfront := mapM_group? front hf
    rw [← pieces_joined front hfnil] at hfront
    by_cases hbnil : back = []
    · subst hbnil
      have hmissing' : 8 - front.length ≠ 0 := by simpa using hmissing
      simp [if_neg (joined_ne_nil front hfnil), hfront, hmissing']
    · simp [if_neg (joined_ne_nil front hfnil), if_neg (joined_ne_nil back hbnil), hfront,
        hback hbnil, hmissing]

theorem parse?_text (a : Ipv6) : parse? a.text.toList = some a := by
  have hlen : (a.groups.toList.map UInt16.toNat).length = 8 := by simp
  have hlt : ∀ g ∈ a.groups.toList.map UInt16.toNat, g < 65536 := by
    intro g hg
    obtain ⟨w, -, rfl⟩ := List.mem_map.mp hg
    exact w.toNat_lt
  rw [← ofGroups?_groups a]
  unfold text
  simp only
  generalize a.groups.toList.map UInt16.toNat = gs at hlen hlt ⊢
  cases hgap : gap? gs with
  | none => exact parse?_joined gs hlen hlt
  | some gap =>
    obtain ⟨i, n⟩ := gap
    obtain ⟨h2, hin, hsplit⟩ := gap?_spec hgap
    have hf : (gs.take i).length = i := List.length_take_of_le (by omega)
    have hb : (gs.drop (i + n)).length = 8 - (i + n) := by rw [List.length_drop, hlen]
    have hr := parse?_gapped (gs.take i) (gs.drop (i + n)) (by omega)
      (fun g hg => hlt g (List.mem_of_mem_take hg)) (fun g hg => hlt g (List.mem_of_mem_drop hg))
    rw [hf, hb, show 8 - (i + (8 - (i + n))) = n by omega, ← hsplit] at hr
    exact hr

theorem mem_text {a : Ipv6} {c : Char} (hc : c ∈ a.text.toList) :
    c = ':' ∨ ∃ d < 16, c = Nat.digitChar d := by
  have hjoined : ∀ gs : List Nat, c ∈ (joined gs).toList →
      c = ':' ∨ ∃ d < 16, c = Nat.digitChar d := by
    intro gs h
    rw [toList_joined] at h
    rcases Text.mem_intercalate h with h | ⟨p, hp, hcp⟩
    · exact Or.inl h
    · obtain ⟨g, -, rfl⟩ := List.mem_map.mp hp
      exact Or.inr (mem_toDigits (by decide) hcp)
  unfold text at hc
  simp only at hc
  split at hc
  · exact hjoined _ hc
  · simp only [String.toList_append] at hc
    rcases List.mem_append.mp hc with hc | hc
    · rcases List.mem_append.mp hc with hc | hc
      · exact hjoined _ hc
      · exact Or.inl (by simpa using hc)
    · exact hjoined _ hc

end Ipv6

end MatrixGateway
