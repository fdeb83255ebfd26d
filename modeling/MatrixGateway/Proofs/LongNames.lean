import MatrixGateway.Proofs.Ideographs
import MatrixGateway.Proofs.Servers

/-!
# Names that are written and not read

Every label of ideographs that is not too long is written in ASCII. With
characters far apart the form is longer than any that is read, and a URL with
that host has a text that is no URL.
-/

set_option autoImplicit false

namespace MatrixGateway

namespace Idna

section Label

variable {s : List Char} (hs : ∀ c ∈ s, isIdeograph c.toNat = true)

include hs

theorem decompose_ideographs : (s.flatMap fun c => decompose depth c.toNat) = s.map Char.toNat := by
  rw [List.map_eq_flatMap]
  apply List.flatMap_congr
  intro c hc
  rw [depth, decompose, ideograph_whole (hs c hc)]

theorem sortMarks_ideographs : sortMarks (s.map Char.toNat) = s.map Char.toNat := by
  induction s with
  | nil => rfl
  | cons c s ih =>
    rw [List.map_cons, sortMarks, ideograph_class (hs c (by simp)), if_pos rfl,
      ih fun d hd => hs d (by simp [hd])]

theorem composeFrom_ideographs (n : Nat) :
    composeFrom n [] 0 (s.map Char.toNat) = n :: s.map Char.toNat := by
  induction s generalizing n with
  | nil => rfl
  | cons c s ih =>
    have hc := hs c (by simp)
    rw [List.map_cons, composeFrom]
    simp [ideograph_apart hc n, ideograph_class hc, ih fun d hd => hs d (by simp [hd])]

theorem compose_ideographs : compose s = s := by
  have hchars : (s.map Char.toNat).map Char.ofNat = s := by
    rw [List.map_map]
    exact List.map_id'' Char.ofNat_toNat s
  unfold compose
  split
  · rfl
  · rw [decompose_ideographs hs, sortMarks_ideographs hs]
    cases s with
    | nil => rfl
    | cons c s =>
      simp only [List.map_cons]
      rw [composeFrom_ideographs fun d hd => hs d (by simp [hd])]
      exact hchars

theorem map?_ideographs : s.mapM map? = some (s.map fun c => [c]) :=
  mapM_eq_some_iff.mpr (List.forall₂_map_right_iff.mpr
    (List.forall₂_same.mpr fun c hc => ideograph_mapped (hs c hc)))

theorem areJoinersPlaced_ideographs (before : List Char) : areJoinersPlaced before s = true := by
  induction s generalizing before with
  | nil => rfl
  | cons c s ih =>
    have hc := hs c (by simp)
    have h1 : c ≠ joiner := by
      rintro rfl
      exact absurd hc (by decide)
    have h2 : c ≠ nonJoiner := by
      rintro rfl
      exact absurd hc (by decide)
    rw [areJoinersPlaced, if_neg h1, if_neg h2, ih fun d hd => hs d (by simp [hd])]
    rfl

theorem isNormal_ideographs : isNormal s = true := by
  have hkept : s.all isKept = true :=
    List.all_eq_true.mpr fun c hc => decide_eq_true (ideograph_mapped (hs c hc))
  have hhead : s.head?.any isMark = false := by
    cases s with
    | nil => rfl
    | cons c s => exact ideograph_not_mark (hs c (by simp))
  rw [isNormal, hkept, compose_ideographs hs, hhead, areJoinersPlaced_ideographs hs]
  simp

theorem toAscii?_ideographs (hne : s ≠ []) (hlength : s.length ≤ maxWritten) :
    toAscii? s = some (mark ++ Punycode.encode s) := by
  have hlarge : ∀ c ∈ s, 128 ≤ c.toNat := fun c hc => ideograph_not_ascii (hs c hc)
  have hflat : (s.map fun c => [c]).flatten = s := by
    rw [← List.flatMap_def, List.flatMap_singleton']
  have hforbidden : s.any isForbidden = false := by
    apply List.any_eq_false.mpr
    intro c hc
    have hmarks : ∀ d ∈ "#%/:<>?@[\\]^|".toList, d.toNat < 128 := by simp
    have hlt := hlarge c hc
    have hnot : c ∉ "#%/:<>?@[\\]^|".toList := fun hmem => by
      have := hmarks c hmem
      omega
    simp [isForbidden] at hnot ⊢
    refine ⟨⟨by omega, by omega⟩, hnot⟩
  have hpieces : Text.pieces (· = '.') s = [s] := by
    apply Text.pieces_unseparated _ s
    intro c hc
    apply decide_eq_false
    rintro rfl
    exact absurd (hlarge _ hc) (by decide)
  have hunmarked : mark.isPrefixOf s = false := by
    rw [Bool.eq_false_iff]
    intro hprefix
    obtain ⟨t, ht⟩ := List.isPrefixOf_iff_prefix.mp hprefix
    have hx : 'x' ∈ s := by
      rw [← ht]
      exact List.mem_append_left _ (by decide)
    exact absurd (hlarge _ hx) (by decide)
  have hascii : isAscii s = false := by
    obtain ⟨c, t, rfl⟩ := List.exists_cons_of_ne_nil hne
    have := hlarge c (by simp)
    rw [isAscii, List.all_cons, decide_eq_false (by omega), Bool.false_and]
  have hdirected : areDirected [s] = true := by
    have hright : isRightToLeft s = false :=
      List.any_eq_false.mpr fun c hc => Bool.not_eq_true _ ▸ ideograph_direction (hs c hc)
    rw [areDirected, List.any_cons, hright]
    rfl
  have hread : [s].mapM unicode? = some [s] := by
    simp [unicode?, hunmarked]
  have hwritten : [s].mapM ascii? = some [mark ++ Punycode.encode s] := by
    simp [ascii?_eq, hascii, hlength]
  have hnormal : [s].all isNormal = true := by simp [isNormal_ideographs hs]
  unfold toAscii?
  rw [map?_ideographs hs]
  simp only [Option.bind_eq_bind, Option.bind_some, hflat, compose_ideographs hs, hforbidden,
    hpieces, Bool.false_eq_true, if_false, hread, hwritten, if_pos (And.intro hnormal hdirected)]
  simp [List.intercalate]

theorem ideograph_beyond {c : Char} (hc : c ∈ s) {d : Char} (hd : d.toNat < 128) : c ≠ d := by
  rintro rfl
  exact absurd (ideograph_not_ascii (hs _ hc)) (by omega)

theorem dot_not_mem_encode : '.' ∉ Punycode.encode s := by
  intro hmem
  have hkey : ∀ d < 36, Punycode.digitChar d ≠ '.' := by decide
  rcases Punycode.mem_encode hmem with ⟨h, -⟩ | h | ⟨d, hd, h⟩
  · exact ideograph_beyond hs h (by decide) rfl
  · exact absurd h (by decide)
  · exact hkey d hd h.symm

end Label

def farApart (count : Nat) : List Char :=
  (List.range count).map fun i => Char.ofNat (firstIdeograph + 29 * i)

theorem mem_farApart {count : Nat} (h : count ≤ 720) {c : Char} :
    c ∈ farApart count ↔ ∃ i < count, c.toNat = firstIdeograph + 29 * i := by
  have hchar : ∀ i < count,
      (Char.ofNat (firstIdeograph + 29 * i)).toNat = firstIdeograph + 29 * i := by
    intro i hi
    refine Text.toNat_ofNat (Or.inl ?_)
    rw [firstIdeograph]
    omega
  constructor
  · intro hc
    obtain ⟨i, hi, rfl⟩ := List.mem_map.mp hc
    exact ⟨i, List.mem_range.mp hi, hchar i (List.mem_range.mp hi)⟩
  · rintro ⟨i, hi, hc⟩
    refine List.mem_map.mpr ⟨i, List.mem_range.mpr hi, Char.toNat_inj.mp ?_⟩
    rw [hchar i hi, hc]

theorem farApart_ideographs {count : Nat} (h : count ≤ 720) :
    ∀ c ∈ farApart count, isIdeograph c.toNat = true := by
  intro c hc
  obtain ⟨i, hi, hn⟩ := (mem_farApart h).mp hc
  rw [isIdeograph_iff, hn, firstIdeograph]
  omega

theorem length_farApart (count : Nat) : (farApart count).length = count := by
  rw [farApart, List.length_map, List.length_range]

theorem length_encode_farApart {count : Nat} (h : count ≤ 720) :
    3 * count ≤ (Punycode.encode (farApart count)).length + 66 := by
  have hnodup : (farApart count).Nodup := by
    refine List.Nodup.map_on (fun i hi j hj heq => ?_) List.nodup_range
    have hi := List.mem_range.mp hi
    have hj := List.mem_range.mp hj
    have heq := congrArg Char.toNat heq
    rw [Text.toNat_ofNat (Or.inl (by rw [firstIdeograph]; omega)),
      Text.toNat_ofNat (Or.inl (by rw [firstIdeograph]; omega))] at heq
    omega
  have hbound := Punycode.length_encode (s := farApart count) (fun c hc => ?_)
    (fun c hc d hd hlt => ?_) hnodup
  · rwa [length_farApart] at hbound
  · obtain ⟨i, -, hn⟩ := (mem_farApart h).mp hc
    rw [hn, firstIdeograph]
    omega
  · obtain ⟨i, -, hi⟩ := (mem_farApart h).mp hc
    obtain ⟨j, -, hj⟩ := (mem_farApart h).mp hd
    omega

end Idna

namespace Url

namespace Host

theorem pieces_marked {form : List Char} (h : '.' ∉ form) :
    Text.pieces (· = '.') (Idna.mark ++ form) = [Idna.mark ++ form] := by
  apply Text.pieces_unseparated _ _
  intro c hc
  apply decide_eq_false
  rintro rfl
  rcases List.mem_append.mp hc with hc | hc
  · exact absurd hc (by decide)
  · exact h hc

theorem endsInNumber_marked {form : List Char} (h : '.' ∉ form) :
    endsInNumber (Idna.mark ++ form) = false := by
  have hmark : Idna.mark = 'x' :: ['n', '-', '-'] := rfl
  have hx : ('x' : Char).isDigit = false ∧ hexValue? 'x' = none := by decide
  have hparts : parts (Idna.mark ++ form) = [Idna.mark ++ form] := by
    unfold parts
    simp only [pieces_marked h, List.length_singleton, Nat.lt_irrefl, false_and, if_false]
  unfold endsInNumber
  rw [hparts, hmark]
  simp [number?, hx]

section Ideographs

variable {s : List Char} (hs : ∀ c ∈ s, Idna.isIdeograph c.toNat = true) (hne : s ≠ [])

include hs hne

theorem parse_ideographs (hlength : s.length ≤ Idna.maxWritten) :
    parse s = .ok (name (Idna.mark ++ Idna.Punycode.encode s)) := by
  have hhead : s.head? ≠ some '[' := fun h =>
    Idna.ideograph_beyond hs (List.mem_of_mem_head? h) (by decide) rfl
  have hpercent : '%' ∉ s := fun h => Idna.ideograph_beyond hs h (by decide) rfl
  rw [parse_unescaped hhead hpercent, Idna.toAscii?_ideographs hs hne hlength]
  simp only [ofDomain]
  rw [if_neg (by simp [Idna.mark]), endsInNumber_marked (Idna.dot_not_mem_encode hs)]
  rfl

theorem isPart_ideographs : IsPart s := by
  have hmarks : ∀ d ∈ "/\\?#@".toList, d.toNat < 128 := by simp
  refine ⟨hne, fun c hc => ?_, Or.inl fun c hc => ?_⟩
  · have hlarge := Idna.ideograph_not_ascii (hs c hc)
    have hnot : "/\\?#@".toList.contains c = false := by
      rw [List.contains_eq_mem, decide_eq_false_iff_not]
      exact fun hmem => Idna.ideograph_beyond hs hc (hmarks c hmem) rfl
    rw [isServerChar, hnot, decide_eq_true (by omega)]
    rfl
  · exact ⟨Idna.ideograph_beyond hs hc (by decide), Idna.ideograph_beyond hs hc (by decide),
      Idna.ideograph_beyond hs hc (by decide)⟩

end Ideographs

theorem isReadable_marked {form : List Char} (hdot : '.' ∉ form) (h : Idna.maxRead < form.length) :
    (name (Idna.mark ++ form)).isReadable = false := by
  have hprefix : Idna.mark.isPrefixOf (Idna.mark ++ form) = true :=
    List.isPrefixOf_iff_prefix.mpr (List.prefix_append _ _)
  change (Text.pieces (· = '.') (Idna.mark ++ form)).all Idna.isReadable = false
  rw [pieces_marked hdot, List.all_cons, Idna.isReadable, hprefix, List.length_append,
    decide_eq_false (by omega)]
  rfl

end Host

theorem parse_ideographs {s : List Char} (hs : ∀ c ∈ s, Idna.isIdeograph c.toNat = true)
    (hne : s ≠ []) (hlength : s.length ≤ Idna.maxWritten) :
    ∃ u, parse ("http://".toList ++ s) = .ok u ∧ u.isHttp = true ∧
      u.host? = some (.name (Idna.mark ++ Idna.Punycode.encode s)) := by
  have htext : "http://".toList ++ s =
      "http".toList ++ "://".toList ++ (s ++ portPart none) ++ [] := by
    have hscheme : "http://".toList = "http".toList ++ "://".toList := rfl
    rw [hscheme, portPart]
    simp
  have hparsed : parse ("http".toList ++ "://".toList ++ (s ++ portPart none) ++ []) =
      (Host.parse s).map fun h => finish "http".toList (some { host := some h }) [] :=
    parse_server (Or.inl rfl) kind_http (Host.isPart_ideographs hs hne) (by simp) (Or.inl rfl)
      (by simp)
  rw [Host.parse_ideographs hs hne hlength] at hparsed
  rw [htext]
  exact ⟨_, hparsed, rfl, rfl⟩

end Url

end MatrixGateway
