import Mathlib.Data.List.Forall2
import MatrixGateway.Idna.Domain
import MatrixGateway.Proofs.Labels
import MatrixGateway.Proofs.Tables

/-!
# Domain names taken to ASCII twice

A name in ASCII is taken to itself, as long as its labels can be read: every
written label reads back as the label it was written for, unless its form is
longer than any that is read.
-/

set_option autoImplicit false

namespace MatrixGateway.Idna

/-! ## Characters that stay as they are -/

def isPlain (c : Char) : Bool := c.toNat < 128 && c.toLower = c && !isForbidden c && c ≠ '.'

theorem digitChar_plain : ∀ d < 36, isPlain (Punycode.digitChar d) = true := by
  decide

theorem isPlain_iff (c : Char) :
    isPlain c = true ↔ c.toNat < 128 ∧ c.toLower = c ∧ isForbidden c = false ∧ c ≠ '.' := by
  simp [isPlain, and_assoc]

theorem map?_ascii {c : Char} (h : c.toNat < 128) : map? c = some [c.toLower] := if_pos h

theorem compose_ascii {s : List Char} (h : isAscii s = true) : compose s = s := if_pos h

theorem mapM_map?_plain (s : List Char) (h : ∀ c ∈ s, c.toNat < 128 ∧ c.toLower = c) :
    s.mapM map? = some (s.map fun c => [c]) := by
  induction s with
  | nil => rfl
  | cons c s ih =>
    obtain ⟨hc, hl⟩ := h c (by simp)
    rw [List.mapM_cons, map?_ascii hc, hl, ih fun d hd => h d (by simp [hd])]
    rfl

theorem mapM_eq_some_iff {α β : Type} {f : α → Option β} {xs : List α} {ys : List β} :
    xs.mapM f = some ys ↔ List.Forall₂ (fun x y => f x = some y) xs ys := by
  induction xs generalizing ys with
  | nil => cases ys <;> simp
  | cons x xs ih =>
    rw [List.mapM_cons]
    cases ys with
    | nil => simp [Option.bind_eq_some_iff]
    | cons y ys =>
      rw [List.forall₂_cons, ← ih]
      simp only [Option.bind_eq_bind, Option.bind_eq_some_iff, Option.pure_def, Option.some.injEq,
        List.cons.injEq]
      constructor
      · rintro ⟨a, ha, as, has, rfl, rfl⟩
        exact ⟨ha, has⟩
      · rintro ⟨ha, has⟩
        exact ⟨y, ha, ys, has, rfl, rfl⟩

theorem exists_mem_of_forall₂ {α β : Type} {R : α → β → Prop} {xs : List α} {ys : List β}
    (h : List.Forall₂ R xs ys) {y : β} (hy : y ∈ ys) : ∃ x ∈ xs, R x y := by
  induction h with
  | nil => contradiction
  | cons hr _ ih =>
    rcases List.mem_cons.mp hy with rfl | hy
    · exact ⟨_, List.mem_cons_self, hr⟩
    · obtain ⟨x, hx, hxy⟩ := ih hy
      exact ⟨x, List.mem_cons_of_mem _ hx, hxy⟩

theorem toAscii?_intercalate (forms : List (List Char)) (hne : forms ≠ [])
    (h : ∀ f ∈ forms, ∀ c ∈ f, isPlain c = true) :
    toAscii? (['.'].intercalate forms) = (forms.mapM unicode?).bind fun labels =>
      if labels.all isNormal ∧ areDirected labels then
        (labels.mapM ascii?).map ['.'].intercalate
      else none := by
  have hdot : ('.' : Char).toNat < 128 ∧ ('.' : Char).toLower = '.' ∧ isForbidden '.' = false := by
    decide
  have hall : ∀ c ∈ ['.'].intercalate forms,
      c.toNat < 128 ∧ c.toLower = c ∧ isForbidden c = false := by
    intro c hc
    rcases Text.mem_intercalate hc with rfl | ⟨f, hf, hcf⟩
    · exact hdot
    · obtain ⟨h1, h2, h3, -⟩ := (isPlain_iff c).mp (h f hf c hcf)
      exact ⟨h1, h2, h3⟩
  have hmap := mapM_map?_plain _ fun c hc => ⟨(hall c hc).1, (hall c hc).2.1⟩
  have hascii : isAscii (['.'].intercalate forms) = true :=
    List.all_eq_true.mpr fun c hc => decide_eq_true (hall c hc).1
  have hforbidden : (['.'].intercalate forms).any isForbidden = false :=
    List.any_eq_false.mpr fun c hc => by simp [(hall c hc).2.2]
  have hpieces : Text.pieces (· = '.') (['.'].intercalate forms) = forms := by
    apply Text.pieces_intercalate _ '.' (by simp) forms hne
    intro f hf c hc
    simpa using ((isPlain_iff c).mp (h f hf c hc)).2.2.2
  have hflat : ((['.'].intercalate forms).map fun c => [c]).flatten = ['.'].intercalate forms := by
    rw [← List.flatMap_def, List.flatMap_singleton']
  unfold toAscii?
  rw [hmap]
  simp only [Option.bind_eq_bind, Option.bind_some, hflat, compose_ascii hascii, hforbidden,
    hpieces, Bool.false_eq_true, if_false]
  congr 1
  funext labels
  split
  · cases labels.mapM ascii? <;> rfl
  · rfl

/-! ## Direction -/

def isRightWord (w : List Char) : Bool :=
  ["R", "AL", "AN"].contains (String.ofList (CodePoints.number 0 w).2)

set_option maxRecDepth 1000000 in
theorem directions_ascii_scan : ∃ cs, directionText.toList = cs ∧
    CodePoints.scan (fun b w => b && (128 ≤ (CodePoints.number 0 w).1 || !isRightWord w))
      true [] cs = true :=
  ⟨_, by unfold directionText; exact String.toList_ofList, by decide +kernel⟩

theorem direction_ascii {c : Char} (h : c.toNat < 128) :
    ["R", "AL", "AN"].contains (direction c) = false := by
  obtain ⟨cs, hcs, hscan⟩ := directions_ascii_scan
  rw [← hcs] at hscan
  have hwords := CodePoints.forall_words hscan
  unfold direction
  cases hr : CodePoints.find? directions c.toNat with
  | none => decide
  | some r =>
    obtain ⟨hmem, hstart⟩ := CodePoints.mem_of_find? hr
    obtain ⟨w, hw, rfl⟩ : ∃ w ∈ CodePoints.words directionText,
        (⟨(CodePoints.number 0 w).1, String.ofList (CodePoints.number 0 w).2⟩ :
          CodePoints.Run String) = r := by
      simpa [directions, CodePoints.runs] using hmem
    have hlt : ¬ 128 ≤ (CodePoints.number 0 w).1 := by
      intro hle
      have : (CodePoints.number 0 w).1 ≤ c.toNat := hstart
      omega
    simpa [hlt, isRightWord] using hwords w hw

theorem areDirected_ascii (labels : List (List Char))
    (h : ∀ l ∈ labels, ∀ c ∈ l, c.toNat < 128) : areDirected labels = true := by
  have hright : labels.any isRightToLeft = false := by
    rw [List.any_eq_false]
    intro l hl hany
    obtain ⟨c, hc, hright⟩ := List.any_eq_true.mp hany
    rw [direction_ascii (h l hl c hc)] at hright
    contradiction
  rw [areDirected, hright]
  rfl

/-! ## Names without marks -/

theorem areJoinersPlaced_ascii (before s : List Char) (h : ∀ c ∈ s, c.toNat < 128) :
    areJoinersPlaced before s = true := by
  induction s generalizing before with
  | nil => rfl
  | cons c s ih =>
    have hc := h c (by simp)
    have h1 : c ≠ joiner := by
      rintro rfl
      exact absurd hc (by decide)
    have h2 : c ≠ nonJoiner := by
      rintro rfl
      exact absurd hc (by decide)
    rw [areJoinersPlaced, if_neg h1, if_neg h2, ih _ fun d hd => h d (by simp [hd])]
    rfl

theorem isNormal_plain {f : List Char} (h : ∀ c ∈ f, isPlain c = true) : isNormal f = true := by
  have hplain : ∀ c ∈ f, c.toNat < 128 ∧ c.toLower = c := fun c hc =>
    ⟨((isPlain_iff c).mp (h c hc)).1, ((isPlain_iff c).mp (h c hc)).2.1⟩
  have hkept : f.all isKept = true := by
    apply List.all_eq_true.mpr
    intro c hc
    apply decide_eq_true
    rw [map?_ascii (hplain c hc).1, (hplain c hc).2]
  have hcompose : compose f = f :=
    compose_ascii (List.all_eq_true.mpr fun c hc => decide_eq_true (hplain c hc).1)
  have hhead : f.head?.any isMark = false := by
    cases f with
    | nil => rfl
    | cons c f =>
      have := (hplain c (by simp)).1
      simp [isMark, Nat.not_le.mpr this]
  have hjoiners := areJoinersPlaced_ascii [] f fun c hc => (hplain c hc).1
  rw [isNormal, hkept, hcompose, hhead, hjoiners]
  simp

theorem toAscii?_unmarked (forms : List (List Char)) (hne : forms ≠ [])
    (h : ∀ f ∈ forms, ∀ c ∈ f, isPlain c = true) (hmark : ∀ f ∈ forms, mark.isPrefixOf f = false) :
    toAscii? (['.'].intercalate forms) = some (['.'].intercalate forms) := by
  have hascii : ∀ f ∈ forms, ∀ c ∈ f, c.toNat < 128 := fun f hf c hc =>
    ((isPlain_iff c).mp (h f hf c hc)).1
  have hread : forms.mapM unicode? = some forms := by
    refine mapM_eq_some_iff.mpr (List.forall₂_same.mpr fun f hf => ?_)
    rw [unicode?, hmark f hf]
    rfl
  have hwritten : forms.mapM ascii? = some forms :=
    mapM_eq_some_iff.mpr (List.forall₂_same.mpr fun f hf =>
      if_pos (List.all_eq_true.mpr fun c hc => decide_eq_true (hascii f hf c hc)))
  have hnormal : forms.all isNormal = true :=
    List.all_eq_true.mpr fun f hf => isNormal_plain (h f hf)
  rw [toAscii?_intercalate forms hne h, hread, Option.bind_some,
    if_pos ⟨hnormal, areDirected_ascii forms hascii⟩, hwritten]
  rfl

/-! ## Labels -/

def isReadable (form : List Char) : Bool :=
  !mark.isPrefixOf form || form.length ≤ mark.length + maxRead

/-- Labels as they are between reading and writing: one in ASCII is not marked,
and its ASCII characters are plain. -/
def IsRead (label : List Char) : Prop :=
  (isAscii label = true → mark.isPrefixOf label = false) ∧
    ∀ c ∈ label, c.toNat < 128 → isPlain c = true

theorem isKept_ascii {c : Char} (h : c.toNat < 128) (hk : isKept c = true) : c.toLower = c := by
  rw [isKept, map?_ascii h] at hk
  simpa using hk

theorem unicode?_isRead {p label : List Char} (hp : ∀ c ∈ p, isForbidden c = false ∧ c ≠ '.')
    (h : unicode? p = some label) (hn : isNormal label = true) : IsRead label := by
  have hkept : ∀ c ∈ label, isKept c = true := by
    simp only [isNormal, Bool.and_eq_true] at hn
    exact List.all_eq_true.mp hn.1.1.1
  have hmem : ∀ c ∈ label, c.toNat < 128 → c ∈ p := by
    unfold unicode? at h
    split at h
    · simp only at h
      split at h
      · intro c hc hlt
        rcases Punycode.mem_decode? (Option.filter_eq_some_iff.mp h).1 hc with hmem | hbig
        · exact List.mem_of_mem_drop hmem
        · omega
      · contradiction
    · rw [← Option.some.inj h]
      exact fun c hc _ => hc
  constructor
  · intro hascii
    unfold unicode? at h
    split at h
    · simp only at h
      split at h
      · have hnot := (Option.filter_eq_some_iff.mp h).2
        simp [hascii] at hnot
      · contradiction
    · rename_i hmark
      rw [← Option.some.inj h]
      exact eq_false_of_ne_true hmark
  · intro c hc hlt
    exact (isPlain_iff c).mpr ⟨hlt, isKept_ascii hlt (hkept c hc), hp c (hmem c hc hlt)⟩

theorem ascii?_eq (label : List Char) :
    ascii? label = if isAscii label then some label
      else if label.length ≤ maxWritten then some (mark ++ Punycode.encode label)
      else none := by
  simp only [ascii?, Punycode.decode?_encode, and_true]

theorem ascii?_spec {label form : List Char} (hl : IsRead label) (h : ascii? label = some form) :
    (∀ c ∈ form, isPlain c = true) ∧
      unicode? form = if isReadable form then some label else none := by
  rw [ascii?_eq] at h
  split at h
  · rename_i hascii
    obtain rfl := Option.some.inj h
    have hmark := hl.1 hascii
    refine ⟨fun c hc => hl.2 c hc ?_, ?_⟩
    · exact of_decide_eq_true (List.all_eq_true.mp hascii c hc)
    · simp [unicode?, isReadable, hmark]
  · rename_i hascii
    split at h
    · obtain rfl := Option.some.inj h
      have hplain : ∀ c ∈ Punycode.encode label, isPlain c = true := by
        intro c hc
        rcases Punycode.mem_encode hc with ⟨hmem, hlt⟩ | rfl | ⟨d, hd, rfl⟩
        · exact hl.2 c hmem hlt
        · decide
        · exact digitChar_plain d hd
      have hasciiForm : isAscii (Punycode.encode label) = true :=
        List.all_eq_true.mpr fun c hc => decide_eq_true ((isPlain_iff c).mp (hplain c hc)).1
      have hprefix : mark.isPrefixOf (mark ++ Punycode.encode label) = true :=
        List.isPrefixOf_iff_prefix.mpr (List.prefix_append _ _)
      constructor
      · intro c hc
        rcases List.mem_append.mp hc with hc | hc
        · have hm : mark.all isPlain = true := by decide
          exact List.all_eq_true.mp hm c hc
        · exact hplain c hc
      · have hfilter : (some label).filter (!isAscii ·) = some label := by
          simp [hascii]
        simp [unicode?, isReadable, hprefix, hasciiForm, Punycode.decode?_encode, hfilter]
    · contradiction

/-! ## Names -/

theorem toAscii?_labels {s d : List Char} (h : toAscii? s = some d) :
    ∃ labels forms : List (List Char), labels ≠ [] ∧ labels.all isNormal = true ∧
      areDirected labels = true ∧ (∀ l ∈ labels, IsRead l) ∧
      List.Forall₂ (fun l f => ascii? l = some f) labels forms ∧ d = ['.'].intercalate forms := by
  unfold toAscii? at h
  simp only [Option.bind_eq_bind, Option.pure_def] at h
  obtain ⟨mapped, -, h⟩ := Option.bind_eq_some_iff.mp h
  split at h
  · contradiction
  · rename_i hforbidden
    obtain ⟨labels, hlabels, h⟩ := Option.bind_eq_some_iff.mp h
    split at h
    · rename_i hok
      obtain ⟨forms, hforms, h⟩ := Option.bind_eq_some_iff.mp h
      have hread := mapM_eq_some_iff.mp hlabels
      refine ⟨labels, forms, ?_, hok.1, hok.2, ?_, mapM_eq_some_iff.mp hforms,
        (Option.some.inj h).symm⟩
      · rintro rfl
        exact Text.pieces_ne_nil _ _ (List.forall₂_nil_right_iff.mp hread)
      · intro l hl
        obtain ⟨p, hp, hpl⟩ := exists_mem_of_forall₂ hread hl
        refine unicode?_isRead (fun c hc => ?_) hpl (List.all_eq_true.mp hok.1 l hl)
        obtain ⟨hdot, hmem⟩ := Text.mem_pieces _ hp hc
        refine ⟨?_, by simpa using hdot⟩
        exact eq_false_of_ne_true fun hf => hforbidden (List.any_eq_true.mpr ⟨c, hmem, hf⟩)
    · contradiction

theorem mapM_unicode?_written {labels forms : List (List Char)}
    (h : List.Forall₂ (fun l f => ascii? l = some f) labels forms)
    (hread : ∀ l ∈ labels, IsRead l) :
    (∀ f ∈ forms, ∀ c ∈ f, isPlain c = true) ∧
      forms.mapM unicode? = if forms.all isReadable then some labels else none := by
  induction h with
  | nil => exact ⟨by simp, rfl⟩
  | @cons l f labels forms hlf _ ih =>
    obtain ⟨hplain, hf⟩ := ascii?_spec (hread l (by simp)) hlf
    obtain ⟨hplains, hfs⟩ := ih fun l hl => hread l (by simp [hl])
    constructor
    · intro g hg
      rcases List.mem_cons.mp hg with rfl | hg
      · exact hplain
      · exact hplains g hg
    · rw [List.mapM_cons, hf, hfs, List.all_cons]
      cases isReadable f <;> cases forms.all isReadable <;> rfl

/-- A name in ASCII is taken to itself exactly when all its labels can be read. -/
theorem toAscii?_again {s d : List Char} (h : toAscii? s = some d) :
    (∀ c ∈ d, isPlain c = true ∨ c = '.') ∧
      toAscii? d = if (Text.pieces (· = '.') d).all isReadable then some d else none := by
  obtain ⟨labels, forms, hne, hnormal, hdirected, hread, hwritten, rfl⟩ := toAscii?_labels h
  obtain ⟨hplain, hunicode⟩ := mapM_unicode?_written hwritten hread
  have hforms : forms ≠ [] := by
    rintro rfl
    exact hne (List.forall₂_nil_right_iff.mp hwritten)
  have hpieces : Text.pieces (· = '.') (['.'].intercalate forms) = forms := by
    apply Text.pieces_intercalate _ '.' (by simp) forms hforms
    intro f hf c hc
    simpa using ((isPlain_iff c).mp (hplain f hf c hc)).2.2.2
  constructor
  · intro c hc
    rcases Text.mem_intercalate hc with rfl | ⟨f, hf, hcf⟩
    · exact Or.inr rfl
    · exact Or.inl (hplain f hf c hcf)
  · rw [toAscii?_intercalate forms hforms hplain, hunicode, hpieces]
    split
    · rw [Option.bind_some, if_pos ⟨hnormal, hdirected⟩, mapM_eq_some_iff.mpr hwritten]
      rfl
    · rfl

end MatrixGateway.Idna
