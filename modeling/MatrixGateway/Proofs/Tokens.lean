import MatrixGateway.Proofs.Credentials
import MatrixGateway.Proofs.Reach

/-!
# Tokens

The rule for tokens is about the first authorization of a request. If it is text, the token is that
text less one leading word for bearers; without it, or if it is no text, the token is empty. The
rule is kept for ASCII. A text beyond ASCII gives no token, as if it were none.
-/

set_option autoImplicit false

namespace MatrixGateway

namespace Bytes

theorem ofText_inj {s t : List Char} : ofText s = ofText t ↔ s = t := by
  refine ⟨fun h => ?_, congrArg ofText⟩
  have hs := text?_ofText s
  rw [h, text?_ofText] at hs
  exact (Option.some.inj hs).symm

end Bytes

namespace Http

/-! ## Readable values -/

theorem ofText_readable {v : Bytes} (h : v.all isReadableByte = true) :
    Bytes.ofText v.latin = v ∧ ∀ c ∈ v.latin, c.toNat < 128 := by
  have hascii : ∀ b ∈ v, b.toNat < 128 := fun b hb =>
    (isReadableByte_ascii (List.all_eq_true.mp h b hb)).1
  refine ⟨Bytes.ofText_latin hascii, fun c hc => ?_⟩
  obtain ⟨b, hb, rfl⟩ := List.mem_map.mp hc
  rw [Url.ofNat_byte]
  exact hascii b hb

theorem isReadableByte_of_field {b : UInt8} (hf : isFieldByte b = true) (hlt : b.toNat < 128) :
    isReadableByte b = true := by
  simp only [isFieldByte, isReadableByte, Bool.or_eq_true, Bool.and_eq_true, decide_eq_true_eq]
    at hf ⊢
  refine hf.imp_right fun hprinted => ⟨hprinted.1, UInt8.lt_iff_toNat_lt.mpr ?_⟩
  have hdel : b.toNat ≠ 127 := fun h => hprinted.2 (UInt8.toNat_inj.mp h)
  exact Nat.lt_of_le_of_ne (Nat.le_of_lt_succ hlt) hdel

theorem readable_ofText_iff {t : List Char} (hf : (Bytes.ofText t).all isFieldByte = true) :
    (Bytes.ofText t).all isReadableByte = true ↔ ∀ c ∈ t, c.toNat < 128 := by
  constructor
  · intro hread
    obtain ⟨heq, hascii⟩ := ofText_readable hread
    rwa [Bytes.ofText_inj.mp heq] at hascii
  · intro hascii
    refine List.all_eq_true.mpr fun b hb =>
      isReadableByte_of_field (List.all_eq_true.mp hf b hb) ?_
    obtain ⟨c, hc, rfl⟩ := List.mem_map.mp (Bytes.ofText_ascii hascii ▸ hb)
    have hlt := hascii c hc
    rw [Bytes.toNat_ofNat (by omega)]
    exact hlt

namespace Headers

/-! ## The rule -/

/-- What the token should be: of the first authorization, if that is UTF-8 for a text. -/
structure IsToken (h : Headers) (token : List Char) : Prop where
  marked : ∀ rest, h.get? .authorization = some (Bytes.ofText (bearerMark ++ rest)) → token = rest
  whole : ∀ t, h.get? .authorization = some (Bytes.ofText t) → ¬ bearerMark <+: t → token = t
  absent : (∀ t, h.get? .authorization ≠ some (Bytes.ofText t)) → token = []

variable {h : Headers}

theorem token_readable {v : Bytes} (hv : h.get? .authorization = some v)
    (hr : v.all isReadableByte = true) :
    h.token.toList =
      if bearerMark.isPrefixOf v.latin then v.latin.drop bearerMark.length else v.latin := by
  simp only [token, hv, Option.bind_some, readable?, if_pos hr, Option.getD_some,
    String.toList_ofList]

theorem token_unreadable
    (hv : ∀ v, h.get? .authorization = some v → v.all isReadableByte ≠ true) : h.token = "" := by
  have hnone : (h.get? .authorization).bind readable? = none := by
    cases ha : h.get? .authorization with
    | none => rfl
    | some v => exact if_neg (hv v ha)
  rw [token, hnone]
  decide

theorem token_marked {rest : List Char}
    (hv : h.get? .authorization = some (Bytes.ofText (bearerMark ++ rest)))
    (hr : (Bytes.ofText (bearerMark ++ rest)).all isReadableByte = true) :
    h.token.toList = rest := by
  have hlatin := Bytes.ofText_inj.mp (ofText_readable hr).1
  rw [token_readable hv hr, hlatin,
    if_pos (List.isPrefixOf_iff_prefix.mpr (List.prefix_append _ _)), List.drop_left]

theorem token_whole {t : List Char} (hv : h.get? .authorization = some (Bytes.ofText t))
    (hr : (Bytes.ofText t).all isReadableByte = true) (hmark : ¬ bearerMark <+: t) :
    h.token.toList = t := by
  have hlatin := Bytes.ofText_inj.mp (ofText_readable hr).1
  rw [token_readable hv hr, hlatin, if_neg (List.isPrefixOf_iff_prefix.not.mpr hmark)]

theorem token_eq_empty_iff {t : List Char} (hv : h.get? .authorization = some (Bytes.ofText t))
    (hr : (Bytes.ofText t).all isReadableByte = true) :
    h.token = "" ↔ t = [] ∨ t = bearerMark := by
  rw [← String.toList_eq_nil_iff]
  by_cases hmark : bearerMark <+: t
  · obtain ⟨rest, rfl⟩ := hmark
    have hne : bearerMark ≠ [] := by decide
    simp only [token_marked hv hr, List.append_eq_nil_iff, hne, false_and, false_or,
      List.append_right_eq_self]
  · rw [token_whole hv hr hmark]
    exact ⟨Or.inl, fun ht => ht.resolve_right fun heq => hmark (heq.symm ▸ List.prefix_rfl)⟩

/-- Where no control character is in the first authorization, the rule for tokens is kept exactly if
it is no text beyond ASCII. The token of such a text is empty; otherwise it is empty if nothing can
be read, or nothing but the word for bearers. -/
theorem isToken_token_iff
    (hfield : ∀ v, h.get? .authorization = some v → v.all isFieldByte = true) :
    (h.IsToken h.token.toList ↔
      ∀ t, h.get? .authorization = some (Bytes.ofText t) → ∀ c ∈ t, c.toNat < 128) ∧
    (∀ t, h.get? .authorization = some (Bytes.ofText t) → (∃ c ∈ t, 128 ≤ c.toNat) →
      h.token = "") ∧
    (h.token = "" ↔ ∀ t, h.get? .authorization = some (Bytes.ofText t) →
      (∀ c ∈ t, c.toNat < 128) → t = [] ∨ t = bearerMark) := by
  have hreadable : ∀ t, h.get? .authorization = some (Bytes.ofText t) →
      ((Bytes.ofText t).all isReadableByte = true ↔ ∀ c ∈ t, c.toNat < 128) :=
    fun t ht => readable_ofText_iff (hfield _ ht)
  have hbeyond : ∀ t, h.get? .authorization = some (Bytes.ofText t) → (∃ c ∈ t, 128 ≤ c.toNat) →
      h.token = "" := by
    rintro t ht ⟨c, hc, hlarge⟩
    refine token_unreadable fun v hv hr => ?_
    obtain rfl := Option.some.inj (ht.symm.trans hv)
    exact absurd ((hreadable t ht).mp hr c hc) (Nat.not_lt.mpr hlarge)
  refine ⟨⟨fun hrule t ht c hc => ?_, fun hascii => ⟨fun rest hv => ?_, fun t hv hmark => ?_,
    fun hnone => ?_⟩⟩, hbeyond, ⟨fun hempty t ht hascii => ?_, fun hleft => ?_⟩⟩
  · by_contra hlarge
    have htoken := hbeyond t ht ⟨c, hc, Nat.not_lt.mp hlarge⟩
    by_cases hmark : bearerMark <+: t
    · obtain ⟨rest, rfl⟩ := hmark
      obtain rfl : [] = rest := by simpa [htoken] using hrule.marked rest ht
      have hword : (bearerMark ++ []).all (·.toNat < 128) = true := by decide
      exact hlarge (of_decide_eq_true (List.all_eq_true.mp hword c hc))
    · obtain rfl : [] = t := by simpa [htoken] using hrule.whole t ht hmark
      contradiction
  · exact token_marked hv ((hreadable _ hv).mpr (hascii _ hv))
  · exact token_whole hv ((hreadable t hv).mpr (hascii t hv)) hmark
  · rw [token_unreadable fun v hv hr =>
      hnone _ (hv.trans (congrArg some (ofText_readable hr).1.symm))]
    rfl
  · exact (token_eq_empty_iff ht ((hreadable t ht).mpr hascii)).mp hempty
  · by_contra hsome
    refine hsome (token_unreadable fun v hv hr => hsome ?_)
    obtain ⟨heq, hascii⟩ := ofText_readable hr
    have ht := hv.trans (congrArg some heq.symm)
    exact (token_eq_empty_iff ht (heq.symm ▸ hr)).mpr (hleft _ ht hascii)

theorem isToken_bearer_twice :
    let h : Headers := ⟨[(.authorization, Bytes.ofString "Bearer Bearer XYZ"),
      (.authorization, Bytes.ofString "Basic")]⟩
    (∀ v, h.get? .authorization = some v → v.all isFieldByte = true) ∧
      h.IsToken h.token.toList ∧ h.token = "Bearer XYZ" := by
  intro h
  have hfirst : h.get? .authorization = some (Bytes.ofText "Bearer Bearer XYZ".toList) := rfl
  have hfield : ∀ v, h.get? .authorization = some v → v.all isFieldByte = true := by
    rintro v hv
    obtain rfl := Option.some.inj (hfirst.symm.trans hv)
    decide
  have hrule : h.IsToken h.token.toList := by
    refine (isToken_token_iff hfield).1.mpr fun t ht => ?_
    obtain rfl := Bytes.ofText_inj.mp (Option.some.inj (hfirst.symm.trans ht))
    simp
  exact ⟨hfield, hrule, String.toList_inj.mp (hrule.marked "Bearer XYZ".toList hfirst)⟩

/-- The token of a text beyond ASCII is lost. -/
theorem token_beyond_ascii_lost :
    let h : Headers := ⟨[(.authorization, Bytes.ofString "Bearer \u00e9")]⟩
    (∀ v, h.get? .authorization = some v → v.all isFieldByte = true) ∧ h.token = "" ∧
      ¬ h.IsToken h.token.toList := by
  intro h
  have hfirst : h.get? .authorization = some (Bytes.ofText (bearerMark ++ ['\u00e9'])) := rfl
  have htoken : h.token = "" := by decide +kernel
  refine ⟨fun v hv => ?_, htoken, fun hrule => ?_⟩
  · obtain rfl := Option.some.inj (hfirst.symm.trans hv)
    decide
  · exact absurd (htoken ▸ hrule.marked _ hfirst) (by decide)

end Headers

end Http

end MatrixGateway
