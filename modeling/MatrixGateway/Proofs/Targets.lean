import MatrixGateway.Http.Uri
import MatrixGateway.Proofs.Encodings

/-!
# Shapes of request targets

A path that was read is empty, begins with a slash, or is the asterisk alone.
It holds no blanks, controls, question marks or hashes, and a query holds no
blanks, controls or hashes.
-/

set_option autoImplicit false

namespace MatrixGateway.Http.Uri

structure Shaped (u : Uri) : Prop where
  path : ∀ c ∈ u.rawPath, 32 < c.toNat ∧ c ≠ '?' ∧ c ≠ '#'
  query : ∀ q, u.query = some q → ∀ c ∈ q, 32 < c.toNat ∧ c ≠ '#'
  start : u.rawPath = [] ∨ u.rawPath.head? = some '/' ∨ u.rawPath = ['*'] ∧ u.query = none

/-! ## Text of bytes -/

def Latin (s : List Char) : Prop := ∀ c ∈ s, c.toNat < 256

theorem latin_of_bytes (bs : Bytes) : Latin bs.latin := by
  intro c hc
  obtain ⟨b, -, rfl⟩ := List.mem_map.mp hc
  rw [Url.ofNat_byte]
  exact b.toNat_lt

theorem mem_of_asText {s t : List Char} (hs : Latin s) (h : asText s = .ok t) {c : Char}
    (hc : c ∈ t) : c ∈ s ∨ 128 ≤ c.toNat := by
  unfold asText at h
  split at h
  · rename_i u hu
    obtain rfl := Except.ok.inj h
    by_cases hlt : c.toNat < 128
    · obtain ⟨d, hd, hdc⟩ := List.mem_map.mp (Bytes.mem_of_text? hu hc hlt)
      have hn : (UInt8.ofNat d.toNat).toNat = (UInt8.ofNat c.toNat).toNat := congrArg _ hdc
      rw [Bytes.toNat_ofNat (hs d hd), Bytes.toNat_ofNat (by omega)] at hn
      rw [← Char.toNat_inj.mp hn]
      exact Or.inl hd
    · exact Or.inr (Nat.le_of_not_lt hlt)
  · contradiction

theorem asText_head {s t : List Char} (hs : s = [] ∨ s.head? = some '/') (h : asText s = .ok t) :
    t = [] ∨ t.head? = some '/' := by
  rcases hs with rfl | hs
  · exact Or.inl (Except.ok.inj h).symm
  · cases s with
    | nil => contradiction
    | cons c s =>
      obtain rfl : c = '/' := Option.some.inj hs
      unfold asText at h
      rw [List.map_cons, show ('/' : Char).toNat.toUInt8 = UInt8.ofNat 47 from rfl,
        Bytes.text?_one 47 (by decide)] at h
      split at h
      · rename_i u hu
        obtain ⟨v, -, rfl⟩ := Option.map_eq_some_iff.mp hu
        rw [← Except.ok.inj h]
        exact Or.inr rfl
      · contradiction

/-! ## Paths and queries -/

theorem isPathChar_visible {c : Char} (h : isPathChar c = true) : 32 < c.toNat := by
  simp only [isPathChar, Bool.or_eq_true, Bool.and_eq_true, decide_eq_true_eq] at h
  omega

theorem isQueryChar_visible {c : Char} (h : isQueryChar c = true) : 32 < c.toNat := by
  simp only [isQueryChar, Bool.or_eq_true, Bool.and_eq_true, decide_eq_true_eq] at h
  omega

/-- What a text may hold is what its characters below 128 were checked for. -/
theorem forall_asText {s t : List Char} {P : Char → Prop} (hs : Latin s) (h : asText s = .ok t)
    (hP : ∀ c ∈ s, P c) (hhigh : ∀ c : Char, 128 ≤ c.toNat → P c) : ∀ c ∈ t, P c := by
  intro c hc
  rcases mem_of_asText hs h hc with hmem | hbig
  · exact hP c hmem
  · exact hhigh c hbig

theorem ne_of_high {c d : Char} (h : 128 ≤ c.toNat) (hd : d.toNat < 128) : c ≠ d := by
  rintro rfl
  omega

theorem latin_takeWhile {s : List Char} (hs : Latin s) (p : Char → Bool) : Latin (s.takeWhile p) :=
  fun c hc => hs c ((List.takeWhile_sublist p).subset hc)

theorem latin_drop {s : List Char} (hs : Latin s) (n : Nat) : Latin (s.drop n) :=
  fun c hc => hs c (List.mem_of_mem_drop hc)

theorem path_spec {s path : List Char} (hs : Latin s)
    (hhead : s = [] ∨ s.head?.any Authority.isEnd = true)
    (hall : (s.takeWhile fun c => c ≠ '?' && c ≠ '#').all isPathChar = true)
    (h : asText (s.takeWhile fun c => c ≠ '?' && c ≠ '#') = .ok path) :
    (∀ c ∈ path, 32 < c.toNat ∧ c ≠ '?' ∧ c ≠ '#') ∧ (path = [] ∨ path.head? = some '/') := by
  constructor
  · refine forall_asText (latin_takeWhile hs _) h (fun c hc => ?_) fun c hc => ?_
    · have hmarks := List.mem_takeWhile_imp hc
      simp only [Bool.and_eq_true, decide_eq_true_eq] at hmarks
      exact ⟨isPathChar_visible (List.all_eq_true.mp hall c hc), hmarks⟩
    · exact ⟨by omega, ne_of_high hc (by decide), ne_of_high hc (by decide)⟩
  · refine asText_head ?_ h
    cases s with
    | nil => exact Or.inl rfl
    | cons c s =>
      have hc : Authority.isEnd c = true := by simpa using hhead
      simp only [Authority.isEnd, Bool.or_eq_true, decide_eq_true_eq] at hc
      rcases hc with (rfl | rfl) | rfl
      · exact Or.inr rfl
      · exact Or.inl rfl
      · exact Or.inl rfl

theorem query_spec {s query : List Char} (hs : Latin s)
    (hall : (s.takeWhile (· ≠ '#')).all isQueryChar = true)
    (h : asText (s.takeWhile (· ≠ '#')) = .ok query) : ∀ c ∈ query, 32 < c.toNat ∧ c ≠ '#' := by
  refine forall_asText (latin_takeWhile hs _) h (fun c hc => ?_) fun c hc => ?_
  · have hmark := List.mem_takeWhile_imp hc
    exact ⟨isQueryChar_visible (List.all_eq_true.mp hall c hc), by simpa using hmark⟩
  · exact ⟨by omega, ne_of_high hc (by decide)⟩

theorem splitPath_spec {s path : List Char} {query : Option (List Char)} (hs : Latin s)
    (hhead : s = [] ∨ s.head?.any Authority.isEnd = true) (h : splitPath s = .ok (path, query)) :
    (∀ c ∈ path, 32 < c.toNat ∧ c ≠ '?' ∧ c ≠ '#') ∧
      (∀ q, query = some q → ∀ c ∈ q, 32 < c.toNat ∧ c ≠ '#') ∧
      (path = [] ∨ path.head? = some '/') := by
  unfold splitPath at h
  simp only [bind, Except.bind, pure, Except.pure, throw, throwThe, MonadExceptOf.throw] at h
  split at h
  · contradiction
  · rename_i hall
    rw [Bool.not_eq_true', Bool.not_eq_false] at hall
    split at h
    · rename_i rest hrest
      have hlatin : Latin rest := fun c hc => latin_drop hs _ c (by rw [hrest]; simp [hc])
      split at h
      · contradiction
      · rename_i hqueryAll
        rw [Bool.not_eq_true', Bool.not_eq_false] at hqueryAll
        split at h
        · contradiction
        · rename_i p hp
          split at h
          · contradiction
          · rename_i q hq
            obtain ⟨rfl, rfl⟩ := Prod.mk.inj (Except.ok.inj h)
            obtain ⟨hpath, hstart⟩ := path_spec hs hhead hall hp
            refine ⟨hpath, fun r hr => ?_, hstart⟩
            rw [← Option.some.inj hr]
            exact query_spec hlatin hqueryAll hq
    · split at h
      · contradiction
      · rename_i p hp
        obtain ⟨rfl, rfl⟩ := Prod.mk.inj (Except.ok.inj h)
        obtain ⟨hpath, hstart⟩ := path_spec hs hhead hall hp
        exact ⟨hpath, by simp, hstart⟩

/-! ## Targets -/

theorem shaped_authority (authority : List Char) : Shaped { authority } :=
  ⟨by simp, by simp, Or.inl rfl⟩

theorem authority_rest {s front rest : List Char} (hs : Latin s)
    (h : Authority.split s = .ok (front, rest)) :
    Latin rest ∧ (rest = [] ∨ rest.head?.any Authority.isEnd = true) := by
  unfold Authority.split at h
  simp only [bind, Except.bind] at h
  split at h
  · contradiction
  · split at h
    · obtain ⟨-, rfl⟩ := Prod.mk.inj (Except.ok.inj h)
      refine ⟨latin_drop hs _, ?_⟩
      rw [Text.drop_takeWhile]
      cases hd : s.dropWhile (!Authority.isEnd ·) with
      | nil => exact Or.inl rfl
      | cons c cs =>
        have hnot := List.head?_dropWhile_not (!Authority.isEnd ·) s
        rw [hd] at hnot
        exact Or.inr (by simpa using hnot)
    · contradiction

theorem splitScheme?_latin {s name rest : List Char} (hs : Latin s)
    (h : splitScheme? s = .ok (some (name, rest))) : Latin rest := by
  unfold splitScheme? at h
  simp only at h
  split at h
  · split at h
    · contradiction
    · obtain ⟨-, rfl⟩ := Prod.mk.inj (Option.some.inj (Except.ok.inj h))
      exact latin_drop (latin_drop hs _) 3
  · exact absurd (Except.ok.inj h) (by simp)

theorem parse_shaped {raw : Bytes} {u : Uri} (h : parse raw = .ok u) : u.Shaped := by
  have hlatin := latin_of_bytes raw
  unfold parse at h
  simp only [bind, Except.bind, pure, Except.pure, throw, throwThe, MonadExceptOf.throw] at h
  split at h
  · contradiction
  · split at h
    · contradiction
    · obtain rfl := Except.ok.inj h
      exact ⟨by simp, by simp, Or.inr (Or.inl rfl)⟩
    · obtain rfl := Except.ok.inj h
      exact ⟨by simp, by simp, Or.inr (Or.inr ⟨rfl, rfl⟩)⟩
    · split at h
      · contradiction
      · obtain rfl := Except.ok.inj h
        exact shaped_authority _
    · rename_i s _ hraw
      split at h
      · contradiction
      · rename_i v hv
        obtain rfl := Except.ok.inj h
        have hs : Latin ('/' :: s) := hraw ▸ hlatin
        obtain ⟨hpath, hquery, hstart⟩ := splitPath_spec hs (Or.inr rfl) hv
        exact ⟨hpath, hquery, hstart.imp_right Or.inl⟩
    · split at h
      · contradiction
      · rename_i v hv
        split at h
        · split at h
          · contradiction
          · split at h
            · contradiction
            · obtain rfl := Except.ok.inj h
              exact shaped_authority _
        · split at h
          · contradiction
          · split at h
            · contradiction
            · rename_i a ha
              split at h
              · contradiction
              · split at h
                · contradiction
                · rename_i p hp
                  obtain rfl := Except.ok.inj h
                  obtain ⟨hrest, hhead⟩ := authority_rest (splitScheme?_latin hlatin hv) ha
                  obtain ⟨hpath, hquery, hstart⟩ := splitPath_spec hrest hhead hp
                  exact ⟨hpath, hquery, hstart.imp_right Or.inl⟩

end MatrixGateway.Http.Uri
