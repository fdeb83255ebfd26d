import MatrixGateway.Proofs.Texts
import MatrixGateway.Url.Percent

/-!
# Texts and bytes read back

A text in UTF-8 is read back as that text. Percent-encoding some characters of
a text does not change what the text decodes to, as long as percent signs and
hexadecimal digits are left alone.
-/

set_option autoImplicit false

namespace MatrixGateway

namespace Bytes

theorem ofNat_lt {n : Nat} (h : n < 256) (b : UInt8) : UInt8.ofNat n < b ↔ n < b.toNat := by
  rw [UInt8.lt_iff_toNat_lt, UInt8.toNat_ofNat', Nat.mod_eq_of_lt h]

theorem toNat_ofNat {n : Nat} (h : n < 256) : (UInt8.ofNat n).toNat = n := by
  rw [UInt8.toNat_ofNat', Nat.mod_eq_of_lt h]

theorem follow?_ofNat (n : Nat) (h : n < 64) : follow? (UInt8.ofNat (n + 128)) = some n := by
  have hn : n + 128 < 256 := by omega
  have hlow : (0x80 : UInt8) ≤ UInt8.ofNat (n + 128) := by
    rw [UInt8.le_iff_toNat_le, toNat_ofNat hn]
    exact Nat.le_add_left 128 n
  have hhigh : UInt8.ofNat (n + 128) < 0xC0 := (ofNat_lt hn _).mpr (Nat.add_lt_add_right h 128)
  unfold follow?
  rw [if_pos ⟨hlow, hhigh⟩, toNat_ofNat hn]
  exact congrArg some (Nat.add_sub_cancel n 128)

theorem scalar?_toNat (least : Nat) (c : Char) (h : least ≤ c.toNat) :
    scalar? least c.toNat = some c := by
  unfold scalar?
  rw [if_pos ⟨h, c.valid⟩, Char.ofNat_toNat]

/-! A first byte says how many bytes follow. -/

theorem text?_one (n : Nat) (h : n < 128) (r : Bytes) :
    text? (UInt8.ofNat n :: r) = (text? r).map (Char.ofNat n :: ·) := by
  have hn : n < 256 := by omega
  have h1 : UInt8.ofNat n < 0x80 := (ofNat_lt hn _).mpr h
  rw [text?.eq_def]
  simp only
  rw [if_pos h1, toNat_ofNat hn]

theorem text?_two (x y : Nat) (hx : x < 32) (hy : y < 64) (r : Bytes) :
    text? (UInt8.ofNat (x + 192) :: UInt8.ofNat (y + 128) :: r) =
      (scalar? 0x80 (x * 64 + y)).bind fun c => (text? r).map (c :: ·) := by
  have hn : x + 192 < 256 := by omega
  have h1 : ¬ UInt8.ofNat (x + 192) < 0x80 := fun h => by
    have : x + 192 < 128 := (ofNat_lt hn _).mp h
    omega
  have h2 : ¬ UInt8.ofNat (x + 192) < 0xC0 := fun h => by
    have : x + 192 < 192 := (ofNat_lt hn _).mp h
    omega
  have h3 : UInt8.ofNat (x + 192) < 0xE0 := (ofNat_lt hn _).mpr (Nat.add_lt_add_right hx 192)
  rw [text?.eq_def]
  simp only
  rw [if_neg h1, if_neg h2, if_pos h3, follow?_ofNat y hy, toNat_ofNat hn]
  simp

theorem text?_three (x y z : Nat) (hx : x < 16) (hy : y < 64) (hz : z < 64) (r : Bytes) :
    text? (UInt8.ofNat (x + 224) :: UInt8.ofNat (y + 128) :: UInt8.ofNat (z + 128) :: r) =
      (scalar? 0x800 ((x * 64 + y) * 64 + z)).bind fun c => (text? r).map (c :: ·) := by
  have hn : x + 224 < 256 := by omega
  have h1 : ¬ UInt8.ofNat (x + 224) < 0x80 := fun h => by
    have : x + 224 < 128 := (ofNat_lt hn _).mp h
    omega
  have h2 : ¬ UInt8.ofNat (x + 224) < 0xC0 := fun h => by
    have : x + 224 < 192 := (ofNat_lt hn _).mp h
    omega
  have h3 : ¬ UInt8.ofNat (x + 224) < 0xE0 := fun h => by
    have : x + 224 < 224 := (ofNat_lt hn _).mp h
    omega
  have h4 : UInt8.ofNat (x + 224) < 0xF0 := (ofNat_lt hn _).mpr (Nat.add_lt_add_right hx 224)
  rw [text?.eq_def]
  simp only
  rw [if_neg h1, if_neg h2, if_neg h3, if_pos h4, follow?_ofNat y hy, follow?_ofNat z hz,
    toNat_ofNat hn]
  simp

theorem text?_four (w x y z : Nat) (hw : w < 8) (hx : x < 64) (hy : y < 64) (hz : z < 64)
    (r : Bytes) :
    text? (UInt8.ofNat (w + 240) :: UInt8.ofNat (x + 128) :: UInt8.ofNat (y + 128) ::
        UInt8.ofNat (z + 128) :: r) =
      (scalar? 0x10000 (((w * 64 + x) * 64 + y) * 64 + z)).bind
        fun c => (text? r).map (c :: ·) := by
  have hn : w + 240 < 256 := by omega
  have h1 : ¬ UInt8.ofNat (w + 240) < 0x80 := fun h => by
    have : w + 240 < 128 := (ofNat_lt hn _).mp h
    omega
  have h2 : ¬ UInt8.ofNat (w + 240) < 0xC0 := fun h => by
    have : w + 240 < 192 := (ofNat_lt hn _).mp h
    omega
  have h3 : ¬ UInt8.ofNat (w + 240) < 0xE0 := fun h => by
    have : w + 240 < 224 := (ofNat_lt hn _).mp h
    omega
  have h4 : ¬ UInt8.ofNat (w + 240) < 0xF0 := fun h => by
    have : w + 240 < 240 := (ofNat_lt hn _).mp h
    omega
  have h5 : UInt8.ofNat (w + 240) < 0xF8 := (ofNat_lt hn _).mpr (Nat.add_lt_add_right hw 240)
  rw [text?.eq_def]
  simp only
  rw [if_neg h1, if_neg h2, if_neg h3, if_neg h4, if_pos h5, follow?_ofNat x hx,
    follow?_ofNat y hy, follow?_ofNat z hz, toNat_ofNat hn]
  simp

theorem text?_char (c : Char) (r : Bytes) :
    text? (String.utf8EncodeChar c ++ r) = (text? r).map (c :: ·) := by
  have hc : c.toNat < 1114112 := by
    rcases c.valid with h | h
    · exact Nat.lt_trans h (by decide)
    · exact h.2
  have hval : c.val.toNat = c.toNat := rfl
  unfold String.utf8EncodeChar
  simp only [hval]
  split
  · rw [List.singleton_append, text?_one _ (by omega), Char.ofNat_toNat]
  · split
    · have hn : c.toNat / 64 % 32 * 64 + c.toNat % 64 = c.toNat := by omega
      rw [List.cons_append, List.singleton_append, text?_two _ _ (by omega) (by omega), hn,
        scalar?_toNat _ c (by omega)]
      rfl
    · split
      · have hn : (c.toNat / 4096 % 16 * 64 + c.toNat / 64 % 64) * 64 + c.toNat % 64 = c.toNat := by
          omega
        rw [List.cons_append, List.cons_append, List.singleton_append,
          text?_three _ _ _ (by omega) (by omega) (by omega), hn, scalar?_toNat _ c (by omega)]
        rfl
      · have hn : ((c.toNat / 262144 % 8 * 64 + c.toNat / 4096 % 64) * 64 +
            c.toNat / 64 % 64) * 64 + c.toNat % 64 = c.toNat := by
          omega
        rw [List.cons_append, List.cons_append, List.cons_append, List.singleton_append,
          text?_four _ _ _ _ (by omega) (by omega) (by omega) (by omega), hn,
          scalar?_toNat _ c (by omega)]
        rfl

theorem text?_ofText (s : List Char) : text? (ofText s) = some s := by
  induction s with
  | nil => rfl
  | cons c s ih =>
    have hs : ofText (c :: s) = String.utf8EncodeChar c ++ ofText s := rfl
    rw [hs, text?_char, ih]
    rfl

theorem least_le_of_scalar? {least n : Nat} {c : Char} (h : scalar? least n = some c) :
    least ≤ c.toNat := by
  unfold scalar? at h
  split at h
  · rename_i hc
    rw [← Option.some.inj h, Text.toNat_ofNat hc.2]
    exact hc.1
  · contradiction

theorem mem_behind {least n : Nat} {r : Bytes} {t : List Char} (hl : 128 ≤ least)
    (h : ((scalar? least n).bind fun d => (text? r).map (d :: ·)) = some t) {c : Char} (hc : c ∈ t)
    (hlt : c.toNat < 128) : ∃ u, text? r = some u ∧ c ∈ u := by
  obtain ⟨d, hd, h⟩ := Option.bind_eq_some_iff.mp h
  obtain ⟨u, hu, rfl⟩ := Option.map_eq_some_iff.mp h
  rcases List.mem_cons.mp hc with rfl | hc
  · have := least_le_of_scalar? hd
    omega
  · exact ⟨u, hu, hc⟩

theorem mem_of_text? {bs : Bytes} {t : List Char} (h : text? bs = some t) {c : Char} (hc : c ∈ t)
    (hlt : c.toNat < 128) : UInt8.ofNat c.toNat ∈ bs := by
  fun_induction text? bs generalizing t with
  | case1 =>
    obtain rfl := Option.some.inj h
    contradiction
  | case2 a r ha ih =>
    obtain ⟨u, hu, rfl⟩ := Option.map_eq_some_iff.mp h
    rcases List.mem_cons.mp hc with rfl | hc
    · have hn : (Char.ofNat a.toNat).toNat = a.toNat :=
        Text.toNat_ofNat (Or.inl (Nat.lt_trans a.toNat_lt (by decide)))
      rw [hn, UInt8.ofNat_toNat]
      exact List.mem_cons_self
    · exact List.mem_cons_of_mem _ (ih hu hc)
  | case4 a _ _ _ b r ih =>
    obtain ⟨x, -, h⟩ := Option.bind_eq_some_iff.mp h
    obtain ⟨u, hu, hcu⟩ := mem_behind (by decide) h hc hlt
    simp [ih hu hcu]
  | case6 a _ _ _ _ b c' r ih =>
    obtain ⟨x, -, h⟩ := Option.bind_eq_some_iff.mp h
    obtain ⟨y, -, h⟩ := Option.bind_eq_some_iff.mp h
    obtain ⟨u, hu, hcu⟩ := mem_behind (by decide) h hc hlt
    simp [ih hu hcu]
  | case8 a _ _ _ _ _ b c' d r ih =>
    obtain ⟨x, -, h⟩ := Option.bind_eq_some_iff.mp h
    obtain ⟨y, -, h⟩ := Option.bind_eq_some_iff.mp h
    obtain ⟨z, -, h⟩ := Option.bind_eq_some_iff.mp h
    obtain ⟨u, hu, hcu⟩ := mem_behind (by decide) h hc hlt
    simp [ih hu hcu]
  | _ => contradiction

theorem ofText_append (s t : List Char) : ofText (s ++ t) = ofText s ++ ofText t :=
  List.flatMap_append

theorem utf8EncodeChar_ascii {c : Char} (h : c.toNat < 128) :
    String.utf8EncodeChar c = [UInt8.ofNat c.toNat] :=
  if_pos (Nat.le_of_lt_succ h)

theorem ofText_latin {bs : Bytes} (h : ∀ b ∈ bs, b.toNat < 128) : ofText bs.latin = bs := by
  induction bs with
  | nil => rfl
  | cons b bs ih =>
    have hb := h b List.mem_cons_self
    have hchar : (Char.ofNat b.toNat).toNat = b.toNat := Text.toNat_ofNat (Or.inl (by omega))
    change String.utf8EncodeChar (Char.ofNat b.toNat) ++ ofText (latin bs) = _
    rw [utf8EncodeChar_ascii (by omega), hchar, UInt8.ofNat_toNat,
      ih fun c hc => h c (List.mem_cons_of_mem _ hc)]
    rfl

theorem ofString_eq_nil (s : String) : ofString s = [] ↔ s = "" := by
  constructor
  · intro h
    have hs := text?_ofText s.toList
    rw [show ofText s.toList = [] from h] at hs
    rw [← String.toList_eq_nil_iff]
    exact (Option.some.inj hs).symm
  · rintro rfl
    rfl

theorem le_of_mem_utf8EncodeChar {c : Char} (h : 128 ≤ c.toNat) {b : UInt8}
    (hb : b ∈ String.utf8EncodeChar c) : 128 ≤ b.toNat := by
  have hval : c.val.toNat = c.toNat := rfl
  have key : ∀ n k : Nat, 128 ≤ k → n + k < 256 → 128 ≤ (UInt8.ofNat (n + k)).toNat := by
    intro n k hk hn
    rw [toNat_ofNat hn]
    omega
  unfold String.utf8EncodeChar at hb
  simp only [hval] at hb
  rw [if_neg (by omega)] at hb
  split at hb
  · simp only [List.mem_cons, List.not_mem_nil, or_false] at hb
    rcases hb with rfl | rfl <;> exact key _ _ (by omega) (by omega)
  · split at hb
    · simp only [List.mem_cons, List.not_mem_nil, or_false] at hb
      rcases hb with rfl | rfl | rfl <;> exact key _ _ (by omega) (by omega)
    · simp only [List.mem_cons, List.not_mem_nil, or_false] at hb
      rcases hb with rfl | rfl | rfl | rfl <;> exact key _ _ (by omega) (by omega)

theorem mem_ofText {s : List Char} {b : UInt8} (hb : b ∈ ofText s) :
    (∃ c ∈ s, c.toNat < 128 ∧ b = UInt8.ofNat c.toNat) ∨ 128 ≤ b.toNat := by
  obtain ⟨c, hc, hbc⟩ := List.mem_flatMap.mp hb
  by_cases h : c.toNat < 128
  · rw [utf8EncodeChar_ascii h, List.mem_singleton] at hbc
    exact Or.inl ⟨c, hc, h, hbc⟩
  · exact Or.inr (le_of_mem_utf8EncodeChar (by omega) hbc)

end Bytes

/-! ## Percent-encoding -/

namespace Url

def isHexByte (b : UInt8) : Bool := (hexValue? (Char.ofNat b.toNat)).isSome

/-- Two digits in front, which make an escape of a percent sign before them. -/
def startsHex : Bytes → Bool
  | h :: l :: _ => isHexByte h && isHexByte l
  | _ => false

theorem decode_literal (a : UInt8) (r : Bytes) (h : a = 37 → startsHex r = false) :
    decode (a :: r) = a :: decode r := by
  match r with
  | [] => rfl
  | [b] => rfl
  | b :: c :: r =>
    rw [decode]
    split
    · rename_i x y hx hy
      have ha : a ≠ 37 := fun ha => by simpa [startsHex, isHexByte, hx, hy] using h ha
      rw [if_neg ha]
    · rfl

theorem decode_escape {h l : UInt8} {x y : Nat} (hx : hexValue? (Char.ofNat h.toNat) = some x)
    (hy : hexValue? (Char.ofNat l.toNat) = some y) (r : Bytes) :
    decode (37 :: h :: l :: r) = (x * 16 + y).toUInt8 :: decode r := by
  rw [decode, hx, hy]
  rfl

theorem decode_eq_self (bs : Bytes) (h : ∀ b ∈ bs, b ≠ 37) : decode bs = bs := by
  induction bs with
  | nil => rfl
  | cons b bs ih =>
    rw [decode_literal b bs fun hb => absurd hb (h b (by simp)),
      ih fun c hc => h c (by simp [hc])]

theorem hexDigit_spec : ∀ d < 16, (hexDigit d).toNat < 128 ∧
    hexValue? (Char.ofNat (UInt8.ofNat (hexDigit d).toNat).toNat) = some d := by
  decide

theorem ofText_encodeByte (b : UInt8) : ∃ h l : UInt8, Bytes.ofText (encodeByte b) = [37, h, l] ∧
    hexValue? (Char.ofNat h.toNat) = some (b.toNat / 16) ∧
    hexValue? (Char.ofNat l.toNat) = some (b.toNat % 16) := by
  have hb := b.toNat_lt
  obtain ⟨h1, hh⟩ := hexDigit_spec (b.toNat / 16) (by omega)
  obtain ⟨l1, hl⟩ := hexDigit_spec (b.toNat % 16) (by omega)
  refine ⟨_, _, ?_, hh, hl⟩
  simp only [Bytes.ofText, encodeByte, List.flatMap_cons, List.flatMap_nil,
    Bytes.utf8EncodeChar_ascii h1, Bytes.utf8EncodeChar_ascii l1]
  rfl

def encodeBytes (set : Char → Bool) (bs : Bytes) : Bytes :=
  bs.flatMap fun b => if set (Char.ofNat b.toNat) then Bytes.ofText (encodeByte b) else [b]

section Set

variable {set : Char → Bool}

theorem encodeBytes_append (a b : Bytes) :
    encodeBytes set (a ++ b) = encodeBytes set a ++ encodeBytes set b := List.flatMap_append

theorem ofNat_byte {b : UInt8} : (Char.ofNat b.toNat).toNat = b.toNat :=
  Text.toNat_ofNat (Or.inl (Nat.lt_trans b.toNat_lt (by decide)))

theorem ofText_encodeChar (hhigh : ∀ c : Char, 128 ≤ c.toNat → set c = true) (c : Char) :
    Bytes.ofText (encodeChar set c) = encodeBytes set (String.utf8EncodeChar c) := by
  by_cases hc : c.toNat < 128
  · have hback : Char.ofNat (UInt8.ofNat c.toNat).toNat = c := by
      rw [Bytes.toNat_ofNat (by omega), Char.ofNat_toNat]
    simp only [encodeChar, Bytes.utf8EncodeChar_ascii hc, encodeBytes, List.flatMap_cons,
      List.flatMap_nil, List.append_nil, hback]
    split
    · rfl
    · simp [Bytes.ofText, Bytes.utf8EncodeChar_ascii hc]
  · have hset := hhigh c (by omega)
    have hbytes : ∀ b ∈ String.utf8EncodeChar c, set (Char.ofNat b.toNat) = true := by
      intro b hb
      apply hhigh
      rw [ofNat_byte]
      exact Bytes.le_of_mem_utf8EncodeChar (by omega) hb
    rw [encodeChar, if_pos hset, encodeBytes, Bytes.ofText, List.flatMap_assoc,
      List.flatMap_def, List.flatMap_def]
    exact congrArg _ (List.map_congr_left fun b hb => (if_pos (hbytes b hb)).symm)

theorem ofText_encode (hhigh : ∀ c : Char, 128 ≤ c.toNat → set c = true) (s : List Char) :
    Bytes.ofText (encode set s) = encodeBytes set (Bytes.ofText s) := by
  induction s with
  | nil => rfl
  | cons c s ih =>
    have hs : Bytes.ofText (c :: s) = String.utf8EncodeChar c ++ Bytes.ofText s := rfl
    have he : encode set (c :: s) = encodeChar set c ++ encode set s := rfl
    rw [hs, he, Bytes.ofText_append, encodeBytes_append, ih, ofText_encodeChar hhigh]

variable (hpercent : set '%' = false) (hhex : ∀ c, (hexValue? c).isSome = true → set c = false)

include hhex in
theorem encodeBytes_hex {b : UInt8} (h : isHexByte b = true) (r : Bytes) :
    encodeBytes set (b :: r) = b :: encodeBytes set r := by
  rw [encodeBytes, List.flatMap_cons, hhex _ h]
  rfl

theorem encodeBytes_cons (set : Char → Bool) (b : UInt8) (r : Bytes) :
    (∃ h l, encodeBytes set (b :: r) = 37 :: h :: l :: encodeBytes set r ∧
      set (Char.ofNat b.toNat) = true ∧ hexValue? (Char.ofNat h.toNat) = some (b.toNat / 16) ∧
      hexValue? (Char.ofNat l.toNat) = some (b.toNat % 16)) ∨
    encodeBytes set (b :: r) = b :: encodeBytes set r ∧ set (Char.ofNat b.toNat) = false := by
  rw [encodeBytes, List.flatMap_cons]
  by_cases hs : set (Char.ofNat b.toNat) = true
  · obtain ⟨h, l, he, hh, hl⟩ := ofText_encodeByte b
    left
    refine ⟨h, l, ?_, hs, hh, hl⟩
    rw [if_pos hs, he]
    rfl
  · right
    rw [if_neg hs]
    exact ⟨rfl, eq_false_of_ne_true hs⟩

include hhex in
theorem startsHex_encodeBytes (r : Bytes) : startsHex (encodeBytes set r) = startsHex r := by
  have hmark : isHexByte 37 = false := by decide
  have first : ∀ (b : UInt8) (r : Bytes), isHexByte b = false →
      ∃ c t, encodeBytes set (b :: r) = c :: t ∧ isHexByte c = false := by
    intro b r hb
    rcases encodeBytes_cons set b r with ⟨h, l, he, -⟩ | ⟨he, -⟩
    · exact ⟨37, _, he, hmark⟩
    · exact ⟨b, _, he, hb⟩
  have short : ∀ (c : UInt8) (t : Bytes), isHexByte c = false → startsHex (c :: t) = false := by
    intro c t hc
    cases t <;> simp [startsHex, hc]
  match r with
  | [] => rfl
  | b :: r =>
    by_cases hb : isHexByte b = true
    · rw [encodeBytes_hex hhex hb]
      match r with
      | [] => rfl
      | c :: r =>
        by_cases hc : isHexByte c = true
        · rw [encodeBytes_hex hhex hc]
          simp [startsHex, hb, hc]
        · have hc := eq_false_of_ne_true hc
          obtain ⟨d, t, he, hd⟩ := first c r hc
          rw [he]
          simp [startsHex, hc, hd]
    · have hb := eq_false_of_ne_true hb
      obtain ⟨c, t, he, hc⟩ := first b r hb
      rw [he, short c t hc, short b r hb]

include hpercent hhex in
/-- Bytes that are encoded once more decode to the same. -/
theorem decode_encodeBytes (bs : Bytes) : decode (encodeBytes set bs) = decode bs := by
  match bs with
  | [] => rfl
  | a :: r =>
    have ih := decode_encodeBytes r
    rcases encodeBytes_cons set a r with ⟨h, l, he, hs, hh, hl⟩ | ⟨he, hs⟩
    · have ha : a ≠ 37 := by
        rintro rfl
        exact absurd hs
          (by rw [show Char.ofNat (37 : UInt8).toNat = '%' from rfl, hpercent]; decide)
      have hn : a.toNat / 16 * 16 + a.toNat % 16 = a.toNat := by omega
      rw [he, decode_escape hh hl, ih, decode_literal a r fun h => absurd h ha, hn]
      exact congrArg (· :: decode r) UInt8.ofNat_toNat
    · rw [he]
      by_cases hx : a = 37 ∧ startsHex r = true
      · obtain ⟨rfl, hx⟩ := hx
        match r with
        | h :: l :: r =>
          obtain ⟨hh, hl⟩ : isHexByte h = true ∧ isHexByte l = true := by
            simpa [startsHex] using hx
          obtain ⟨x, hx⟩ := Option.isSome_iff_exists.mp hh
          obtain ⟨y, hy⟩ := Option.isSome_iff_exists.mp hl
          rw [encodeBytes_hex hhex hh, encodeBytes_hex hhex hl, decode_escape hx hy,
            decode_escape hx hy, decode_encodeBytes r]
      · have hlit : a = 37 → startsHex r = false := fun ha =>
          eq_false_of_ne_true fun hr => hx ⟨ha, hr⟩
        rw [decode_literal a r hlit, decode_literal a _ fun ha => by
          rw [startsHex_encodeBytes hhex]; exact hlit ha, ih]
termination_by bs.length

include hpercent hhex in
theorem decode_encode (hhigh : ∀ c : Char, 128 ≤ c.toNat → set c = true) (s : List Char) :
    decode (Bytes.ofText (encode set s)) = decode (Bytes.ofText s) := by
  rw [ofText_encode hhigh, decode_encodeBytes hpercent hhex]

end Set

end Url

end MatrixGateway
