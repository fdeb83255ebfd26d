import Mathlib.Data.List.Flatten
import MatrixGateway.Proofs.Texts
import MatrixGateway.Route
import MatrixGateway.Url.Parse

/-!
# Paths that are read as they are written

A URL's reader takes dot segments away, turns backslashes into slashes and
encodes some characters. It leaves a path alone exactly when there is nothing
of the three in it; a dot segment makes the path shorter, and what the other
two replace never stands in a path that was read.
-/

set_option autoImplicit false

namespace MatrixGateway

/-! ## Dot segments in two spellings -/

namespace Route

theorem undot_cons (c : Char) (s : List Char) :
    undot (c :: s) = c :: undot s ∨
      ∃ r, c = '%' ∧ s = '2' :: 'e' :: r ∧ undot (c :: s) = '.' :: undot r := by
  by_cases h : ∃ r, c = '%' ∧ s = '2' :: 'e' :: r
  · obtain ⟨r, rfl, rfl⟩ := h
    exact Or.inr ⟨r, rfl, rfl, undot.eq_1 r⟩
  · exact Or.inl (undot.eq_2 c s fun r hc hs => h ⟨r, hc, hs⟩)

theorem undot_eq_nil {s : List Char} : undot s = [] ↔ s = [] := by
  cases s with
  | nil => simp [undot]
  | cons c s => rcases undot_cons c s with h | ⟨r, -, -, h⟩ <;> simp [h]

theorem undot_eq_dot {s t : List Char} :
    undot s = '.' :: t ↔ ∃ r, undot r = t ∧ (s = '.' :: r ∨ s = '%' :: '2' :: 'e' :: r) := by
  constructor
  · intro h
    cases s with
    | nil => simp [undot] at h
    | cons c s =>
      rcases undot_cons c s with hc | ⟨r, rfl, rfl, hr⟩
      · rw [hc, List.cons.injEq] at h
        exact ⟨s, h.2, Or.inl (by rw [h.1])⟩
      · rw [hr, List.cons.injEq] at h
        exact ⟨r, h.2, Or.inr rfl⟩
  · rintro ⟨r, rfl, rfl | rfl⟩ <;> simp [undot]

end Route

open Text in
theorem lower_marks (c : Char) :
    (c.toLower = '.' ↔ c = '.') ∧ (c.toLower = '%' ↔ c = '%') ∧ (c.toLower = '2' ↔ c = '2') ∧
      (c.toLower = 'e' ↔ c = 'e' ∨ c = 'E') := by
  simp only [toLower_eq_iff]
  simp only [← Char.toNat_inj, Char.reduceToNat]
  omega

theorem lower_eq_dot {s t : List Char} (h : Text.lower s = '.' :: t) :
    ∃ r, s = '.' :: r ∧ Text.lower r = t := by
  obtain ⟨a, r, rfl, ha, hr⟩ := List.map_eq_cons_iff.mp h
  rw [(lower_marks a).1] at ha
  exact ⟨r, by rw [ha], hr⟩

theorem lower_eq_encoded {s t : List Char} (h : Text.lower s = '%' :: '2' :: 'e' :: t) :
    ∃ r, (s = '%' :: '2' :: 'e' :: r ∨ s = '%' :: '2' :: 'E' :: r) ∧ Text.lower r = t := by
  obtain ⟨a, u, rfl, ha, hu⟩ := List.map_eq_cons_iff.mp h
  obtain ⟨b, v, rfl, hb, hv⟩ := List.map_eq_cons_iff.mp hu
  obtain ⟨c, r, rfl, hc, hr⟩ := List.map_eq_cons_iff.mp hv
  rw [(lower_marks a).2.1] at ha
  rw [(lower_marks b).2.2.1] at hb
  rw [(lower_marks c).2.2.2] at hc
  subst ha hb
  exact ⟨r, by rcases hc with rfl | rfl <;> simp, hr⟩

theorem dot_of_undot {s t : List Char} (h : Route.undot (Text.lower s) = '.' :: t) :
    ∃ r, (s = '.' :: r ∨ s = '%' :: '2' :: 'e' :: r ∨ s = '%' :: '2' :: 'E' :: r) ∧
      Route.undot (Text.lower r) = t := by
  obtain ⟨u, hu, hd | he⟩ := Route.undot_eq_dot.mp h
  · obtain ⟨r, hs, hr⟩ := lower_eq_dot hd
    exact ⟨r, Or.inl hs, by rw [hr, hu]⟩
  · obtain ⟨r, hs, hr⟩ := lower_eq_encoded he
    exact ⟨r, Or.inr hs, by rw [hr, hu]⟩

theorem nil_of_undot {s : List Char} (h : Route.undot (Text.lower s) = []) : s = [] := by
  rw [Route.undot_eq_nil] at h
  exact List.map_eq_nil_iff.mp h

/-- The two recognisers of dot segments agree on every segment. -/
theorem isDotSegment_iff (s : List Char) :
    Route.isDotSegment s = true ↔ Url.isSingleDot s = true ∨ Url.isDoubleDot s = true := by
  constructor
  · intro h
    simp only [Route.isDotSegment, Bool.or_eq_true, decide_eq_true_eq] at h
    rcases h with h | h
    · obtain ⟨r, hs, hr⟩ := dot_of_undot h
      obtain rfl := nil_of_undot hr
      rcases hs with rfl | rfl | rfl <;> decide
    · obtain ⟨r, hs, hr⟩ := dot_of_undot h
      obtain ⟨q, ht, hq⟩ := dot_of_undot hr
      obtain rfl := nil_of_undot hq
      rcases hs with rfl | rfl | rfl <;> rcases ht with rfl | rfl | rfl <;> decide
  · intro h
    simp only [Url.isSingleDot, Url.isDoubleDot, List.any_eq_true, decide_eq_true_eq] at h
    rcases h with ⟨x, hx, rfl⟩ | ⟨x, hx, rfl⟩ <;> revert x <;> decide

namespace Url

/-! ## What an encoded text is made of -/

theorem hexDigit_clean : ∀ n < 16, inPathSet (hexDigit n) = false ∧ hexDigit n ≠ '\\' := by
  decide

theorem mem_encode {set : Char → Bool} {s : List Char} {c : Char} (h : c ∈ encode set s) :
    (c ∈ s ∧ set c = false) ∨ c = '%' ∨ ∃ n < 16, c = hexDigit n := by
  obtain ⟨d, hd, hc⟩ := List.mem_flatMap.mp h
  rw [encodeChar] at hc
  split at hc
  · obtain ⟨b, -, hb⟩ := List.mem_flatMap.mp hc
    have hlt := b.toNat_lt
    simp only [encodeByte, List.mem_cons, List.not_mem_nil, or_false] at hb
    rcases hb with hb | hb | hb
    · exact Or.inr (Or.inl hb)
    · exact Or.inr (Or.inr ⟨_, by omega, hb⟩)
    · exact Or.inr (Or.inr ⟨_, by omega, hb⟩)
  · rename_i hset
    obtain rfl := List.mem_singleton.mp hc
    exact Or.inl ⟨hd, by simpa using hset⟩

theorem encode_path_clean {s : List Char} (hs : '\\' ∉ s) {c : Char}
    (h : c ∈ encode inPathSet s) : inPathSet c = false ∧ c ≠ '\\' := by
  rcases mem_encode h with ⟨hc, hset⟩ | rfl | ⟨n, hn, rfl⟩
  · exact ⟨hset, fun e => hs (e ▸ hc)⟩
  · decide
  · exact hexDigit_clean n hn

namespace Segments

theorem text_append (a b : List (List Char)) : text (a ++ b) = text a ++ text b :=
  List.flatMap_append

theorem length_text_cons (s : List Char) (a : List (List Char)) :
    (text (s :: a)).length = s.length + 1 + (text a).length := by
  rw [text, List.flatMap_cons, List.length_append, List.length_cons]
  rfl

theorem shorten_sublist (a : List (List Char)) : (shorten a).Sublist a := by
  unfold shorten
  split
  · split
    · exact List.Sublist.refl _
    · exact List.dropLast_sublist _
  · exact List.nil_sublist _

def isDot (s : List Char) : Bool := isSingleDot s || isDoubleDot s

theorem isDotSegment_eq (s : List Char) : Route.isDotSegment s = isDot s := by
  rw [Bool.eq_iff_iff, isDotSegment_iff, isDot, Bool.or_eq_true]

theorem isDot_ne_nil {s : List Char} (h : isDot s = true) : s ≠ [] := by
  rintro rfl
  exact absurd h (by decide)

theorem resolve_cons (done : List (List Char)) (s : List Char) (rest : List (List Char)) :
    resolve done (s :: rest) =
      if isDot s then
        resolve
          ((if isDoubleDot s then shorten done else done) ++ if rest = [] then [[]] else []) rest
      else resolve (done ++ [encode inPathSet s]) rest := by
  rw [resolve, isDot]
  by_cases hd : isDoubleDot s = true
  · simp [hd]
  · by_cases hs : isSingleDot s = true <;> simp [hd, hs]

theorem resolve_plain (done ps : List (List Char)) (h : ∀ s ∈ ps, isDot s = false) :
    resolve done ps = done ++ ps.map (encode inPathSet) := by
  induction ps generalizing done with
  | nil => simp [resolve]
  | cons s ps ih =>
    rw [resolve_cons, h s (by simp), if_neg (by simp), ih _ fun t ht => h t (by simp [ht])]
    simp

theorem resolve_forall (P : Char → Prop) (done ps : List (List Char))
    (hd : ∀ s ∈ done, ∀ c ∈ s, P c) (hp : ∀ s ∈ ps, ∀ c ∈ encode inPathSet s, P c) :
    ∀ s ∈ resolve done ps, ∀ c ∈ s, P c := by
  induction ps generalizing done with
  | nil => exact hd
  | cons s ps ih =>
    rw [resolve_cons]
    have hps : ∀ t ∈ ps, ∀ c ∈ encode inPathSet t, P c := fun t ht => hp t (by simp [ht])
    split
    · refine ih _ (fun t ht => ?_) hps
      rcases List.mem_append.mp ht with ht | ht
      · split at ht
        · exact hd t ((shorten_sublist done).subset ht)
        · exact hd t ht
      · split at ht
        · simp only [List.mem_singleton] at ht
          subst ht
          simp
        · contradiction
    · refine ih _ (fun t ht => ?_) hps
      rcases List.mem_append.mp ht with ht | ht
      · exact hd t ht
      · obtain rfl := List.mem_singleton.mp ht
        exact hp s (by simp)

theorem length_sublist {a b : List (List Char)} (h : a.Sublist b) :
    (text a).length ≤ (text b).length := (h.flatMap _).length_le

/-- Where nothing is encoded, reading segments never makes a path longer, and
a dot segment makes it shorter. -/
theorem resolve_length (done ps : List (List Char))
    (h : ∀ s ∈ ps, ∀ c ∈ s, inPathSet c = false) :
    (text (resolve done ps)).length ≤ (text done).length + (text ps).length ∧
      ((∃ s ∈ ps, isDot s = true) →
        (text (resolve done ps)).length < (text done).length + (text ps).length) := by
  induction ps generalizing done with
  | nil => simp [resolve, text]
  | cons s ps ih =>
    have hs := encode_eq_self inPathSet s (h s (by simp))
    have hps := fun t ht => h t (List.mem_cons_of_mem s ht)
    have hl := length_text_cons s ps
    rw [resolve_cons]
    by_cases hdot : isDot s = true
    · rw [if_pos hdot]
      have hpos : 0 < s.length := List.length_pos_iff.mpr (isDot_ne_nil hdot)
      obtain ⟨hle, -⟩ := ih ((if isDoubleDot s then shorten done else done) ++
        if ps = [] then [[]] else []) hps
      have hkept : (text (if isDoubleDot s then shorten done else done)).length ≤
          (text done).length := by
        split
        · exact length_sublist (shorten_sublist done)
        · exact le_refl _
      have hend : (text (if ps = [] then [[]] else [])).length ≤ 1 := by split <;> simp [text]
      rw [text_append, List.length_append] at hle
      exact ⟨by omega, fun _ => by omega⟩
    · rw [if_neg hdot, hs]
      obtain ⟨hle, hlt⟩ := ih (done ++ [s]) hps
      rw [text_append, List.length_append] at hle hlt
      have hone : (text [s]).length = s.length + 1 := by simp [text]
      refine ⟨by omega, ?_⟩
      rintro ⟨t, ht, htd⟩
      rcases List.mem_cons.mp ht with rfl | ht
      · contradiction
      · have := hlt ⟨t, ht, htd⟩
        omega

end Segments

theorem isSeparator_special {k : Kind} (hk : k.isSpecial = true) :
    k.isSeparator = fun c => c = '/' || c = '\\' := by
  funext c
  simp [Kind.isSeparator, hk]

/-- A path is read as it is written exactly when it has no dot segment, no
backslash and nothing to encode. -/
theorem readPath_unchanged_iff {k : Kind} (hk : k.isSpecial = true) (rest : List Char) :
    Segments.text (readPath k ('/' :: rest)) = '/' :: rest ↔
      Route.hasDotSegment ('/' :: rest) = false ∧
        ∀ c ∈ '/' :: rest, c ≠ '\\' ∧ inPathSet c = false := by
  let sep : Char → Bool := fun c => c = '/' || c = '\\'
  have hr : readPath k ('/' :: rest) = Segments.resolve [] (Text.pieces sep rest) := by
    simp [readPath, Segments.ofText, isSeparator_special hk, sep]
  have hd : Route.hasDotSegment ('/' :: rest) = false ↔
      ∀ s ∈ Text.pieces sep rest, Segments.isDot s = false := by
    have hp : Text.pieces sep ('/' :: rest) = [] :: Text.pieces sep rest := by
      simp [Text.pieces, sep]
    change (Text.pieces sep ('/' :: rest)).any Route.isDotSegment = false ↔ _
    rw [hp, List.any_cons, Bool.or_eq_false_iff, List.any_eq_false]
    simp only [Segments.isDotSegment_eq, Bool.not_eq_true]
    exact and_iff_right (by decide)
  have hslash : (∀ c ∈ '/' :: rest, c ≠ '\\' ∧ inPathSet c = false) →
      Segments.text (Text.pieces sep rest) = '/' :: rest := by
    intro hc
    apply Text.flatMap_pieces sep '/' rest
    intro c hcr hs
    simp only [sep, Bool.or_eq_true, decide_eq_true_eq] at hs
    exact hs.resolve_right (hc c (by simp [hcr])).1
  rw [hr, hd]
  constructor
  · intro h
    have hc : ∀ c ∈ '/' :: rest, c ≠ '\\' ∧ inPathSet c = false := by
      rw [← h]
      intro c hc
      obtain ⟨s, hs, hcs⟩ := List.mem_flatMap.mp hc
      rcases List.mem_cons.mp hcs with rfl | hcs
      · decide
      · refine Segments.resolve_forall (fun c => c ≠ '\\' ∧ inPathSet c = false) [] _ (by simp)
          (fun t ht d hd => ?_) s hs c hcs
        have hb : '\\' ∉ t := fun hm => by
          simpa [sep] using (Text.mem_pieces sep ht hm).1
        exact (encode_path_clean hb hd).symm
    refine ⟨fun s hs => ?_, hc⟩
    by_contra hdot
    have hlt := (Segments.resolve_length [] (Text.pieces sep rest) fun t ht d hd =>
      (hc d (by simp [(Text.mem_pieces sep ht hd).2])).2).2 ⟨s, hs, by simpa using hdot⟩
    rw [h, hslash hc] at hlt
    simp [Segments.text] at hlt
  · rintro ⟨hdot, hc⟩
    rw [Segments.resolve_plain [] _ hdot, List.nil_append]
    have hm : (Text.pieces sep rest).map (encode inPathSet) = Text.pieces sep rest := by
      have he : ∀ s ∈ Text.pieces sep rest, encode inPathSet s = id s := fun s hs =>
        encode_eq_self _ s fun d hd => (hc d (by simp [(Text.mem_pieces sep hs hd).2])).2
      exact (List.map_congr_left he).trans (List.map_id _)
    rw [hm, hslash hc]

end Url

end MatrixGateway
