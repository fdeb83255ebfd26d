import MatrixGateway.Proofs.EndToEnd

/-!
# Fields for the next hop

Eight fields are always for the next hop, and so are the fields that a connection field lists. A
value lists a name if it is printable text and one of its elements, between commas, spells the name:
in either case, with blanks around it. These fields lose all their values and the others keep
theirs. An element that spells no name might as well not be there.
-/

set_option autoImplicit false

namespace MatrixGateway

/-! ## Cut and trimmed texts -/

namespace Text

theorem intercalate_pieces (d : Char) (s : List Char) :
    [d].intercalate (pieces (· = d) s) = s := by
  induction s with
  | nil => rfl
  | cons c s ih =>
    cases hp : pieces (· = d) s with
    | nil => exact absurd hp (pieces_ne_nil _ s)
    | cons p ps =>
      rw [pieces, hp]
      rw [hp] at ih
      by_cases hc : c = d
      · rw [if_pos (decide_eq_true hc), List.intercalate_cons_cons, ih, hc]
        rfl
      · rw [if_neg (by simpa using hc)]
        cases ps with
        | nil => simpa using ih
        | cons q ps =>
          rw [List.intercalate_cons_cons] at ih ⊢
          rw [← ih]
          rfl

theorem trim_append {l w r : List Char} (hl : ∀ c ∈ l, isBlank c = true)
    (hr : ∀ c ∈ r, isBlank c = true) (hne : w ≠ []) (hw : ∀ c ∈ w, isBlank c = false) :
    trim (l ++ w ++ r) = w := by
  have hbegins : (w ++ r).dropWhile isBlank = w ++ r := by
    obtain ⟨c, cs, rfl⟩ := List.exists_cons_of_ne_nil hne
    exact List.dropWhile_cons_of_neg (by simp [hw c List.mem_cons_self])
  have hends : w.reverse.dropWhile isBlank = w.reverse := by
    obtain ⟨c, cs, hcs⟩ := List.exists_cons_of_ne_nil (List.reverse_ne_nil_iff.mpr hne)
    have hc : c ∈ w := List.mem_reverse.mp (hcs ▸ List.mem_cons_self)
    rw [hcs]
    exact List.dropWhile_cons_of_neg (by simp [hw c hc])
  have hrest : ∀ c ∈ r.reverse, isBlank c = true := fun c hc => hr c (List.mem_reverse.mp hc)
  rw [trim, List.append_assoc, List.dropWhile_append_of_pos hl, hbegins, List.reverse_append,
    List.dropWhile_append_of_pos hrest, hends, List.reverse_reverse]

theorem trim_split (s : List Char) :
    ∃ l r, s = l ++ trim s ++ r ∧ ∀ c ∈ l ++ r, isBlank c = true := by
  let rest := s.dropWhile isBlank
  refine ⟨s.takeWhile isBlank, (rest.reverse.takeWhile isBlank).reverse, ?_, fun c hc => ?_⟩
  · rw [trim, List.append_assoc, ← List.reverse_append, List.takeWhile_append_dropWhile,
      List.reverse_reverse, List.takeWhile_append_dropWhile]
  · rcases List.mem_append.mp hc with hc | hc
    · exact List.mem_takeWhile_imp hc
    · exact List.mem_takeWhile_imp (List.mem_reverse.mp hc)

end Text

namespace Http

/-! ## Elements that spell a name -/

/-- The element is the name, in either case, with blanks around it. -/
def Spells (e : List Char) (n : HeaderName) : Prop :=
  ∃ l w r, e = l ++ w ++ r ∧ (∀ c ∈ l ++ r, c = ' ' ∨ c = '\t') ∧
    (w ≠ [] ∧ w.length ≤ HeaderName.maxLength ∧ w.all isTokenChar = true) ∧
      n.text.toList = Text.lower w

theorem isTokenChar_ascii {c : Char} (h : isTokenChar c = true) : c.toNat < 128 := by
  rcases Bool.or_eq_true_iff.mp h with hword | hmark
  · rcases Bool.or_eq_true_iff.mp hword with hletter | hdigit
    · rcases Bool.or_eq_true_iff.mp hletter with hupper | hlower
      · have hz : c.toNat ≤ 'Z'.toNat := (of_decide_eq_true hupper).2
        exact Nat.lt_of_le_of_lt hz (by decide)
      · have hz : c.toNat ≤ 'z'.toNat := of_decide_eq_true (Bool.and_eq_true_iff.mp hlower).2
        exact Nat.lt_of_le_of_lt hz (by decide)
    · have hnine : c.toNat ≤ '9'.toNat := of_decide_eq_true (Bool.and_eq_true_iff.mp hdigit).2
      exact Nat.lt_of_le_of_lt hnine (by decide)
  · have hmarks : ∀ d ∈ "!#$%&'*+-.^_`|~".toList, d.toNat < 128 := by simp
    exact hmarks c (List.contains_iff_mem.mp hmark)

theorem isBlank_tokenChar {c : Char} (h : isTokenChar c = true) : Text.isBlank c = false :=
  Text.of_ascii (P := fun c => isTokenChar c = true → Text.isBlank c = false) (by decide)
    (isTokenChar_ascii h) h

def Readable (e : List Char) : Prop := ∀ c ∈ e, c = '\t' ∨ (32 ≤ c.toNat ∧ c.toNat < 127)

theorem readable_latin {value : Bytes} (h : value.all isReadableByte = true) :
    Readable value.latin := by
  intro c hc
  obtain ⟨b, hb, rfl⟩ := List.mem_map.mp hc
  have hread := List.all_eq_true.mp h b hb
  rw [Url.ofNat_byte]
  rcases Bool.or_eq_true_iff.mp hread with htab | hprinted
  · obtain rfl := of_decide_eq_true htab
    exact Or.inl (by decide)
  · obtain ⟨hlow, hhigh⟩ := Bool.and_eq_true_iff.mp hprinted
    exact Or.inr ⟨UInt8.le_iff_toNat_le.mp (of_decide_eq_true hlow),
      UInt8.lt_iff_toNat_lt.mp (of_decide_eq_true hhigh)⟩

theorem isBlank_readable {e : List Char} (h : Readable e) {c : Char} (hc : c ∈ e) :
    Text.isBlank c = true ↔ c = ' ' ∨ c = '\t' := by
  rcases h c hc with rfl | ⟨hlow, hhigh⟩
  · decide
  · exact Text.of_ascii (P := fun c => 32 ≤ c.toNat →
      (Text.isBlank c = true ↔ c = ' ' ∨ c = '\t')) (by decide) (by omega) hlow

theorem HeaderName.text_inj {m n : HeaderName} : m.text = n.text ↔ m = n :=
  (HeaderName.mk.injEq ..).to_iff.symm

theorem HeaderName.ofText?_eq_some_iff {w : List Char} {n : HeaderName} :
    ofText? w = some n ↔
      (w ≠ [] ∧ w.length ≤ maxLength ∧ w.all isTokenChar = true) ∧
        n.text.toList = Text.lower w := by
  rw [ofText?]
  split
  · rename_i hw
    rw [Option.some.injEq, and_iff_right hw]
    constructor
    · rintro rfl
      exact String.toList_ofList
    · intro hlower
      rw [← hlower, String.ofList_toList]
  · rename_i hw
    exact ⟨fun h => (nomatch h), fun h => absurd h.1 hw⟩

theorem ofText?_trim_iff {e : List Char} (h : Readable e) {n : HeaderName} :
    HeaderName.ofText? (Text.trim e) = some n ↔ Spells e n := by
  rw [HeaderName.ofText?_eq_some_iff]
  constructor
  · rintro ⟨hname, hlower⟩
    obtain ⟨l, r, he, hblank⟩ := Text.trim_split e
    refine ⟨l, Text.trim e, r, he, fun c hc => ?_, hname, hlower⟩
    have hmem : c ∈ e := by
      rw [he]
      rcases List.mem_append.mp hc with hc | hc
      · simp [hc]
      · simp [hc]
    exact (isBlank_readable h hmem).mp (hblank c hc)
  · -- no character of a token is blank, so trimming stops at its two ends
    rintro ⟨l, w, r, he, hblank, hname, hlower⟩
    have hends : ∀ c ∈ l ++ r, Text.isBlank c = true := by
      intro c hc
      rcases hblank c hc with rfl | rfl
      · decide
      · decide
    have htrim : Text.trim e = w := by
      rw [he]
      exact Text.trim_append (fun c hc => hends c (List.mem_append_left r hc))
        (fun c hc => hends c (List.mem_append_right l hc)) hname.1
        (fun c hc => isBlank_tokenChar (List.all_eq_true.mp hname.2.2 c hc))
    rw [htrim]
    exact ⟨hname, hlower⟩

namespace Headers

/-! ## Names that values list -/

def Lists (value : Bytes) (n : HeaderName) : Prop :=
  value.all isReadableByte = true ∧ ∃ es, value.latin = [','].intercalate es ∧
    (∀ e ∈ es, ',' ∉ e) ∧ ∃ e ∈ es, Spells e n

def ForNextHop (h : Headers) (n : HeaderName) : Prop :=
  n.text ∈ ["connection", "keep-alive", "proxy-authenticate", "proxy-authorization", "te",
    "trailer", "transfer-encoding", "upgrade"] ∨
  ∃ value ∈ h.getAll .connection, Lists value n

def joined (es : List Bytes) : Bytes := [44].intercalate es

theorem listed_readable {value : Bytes} (h : value.all isReadableByte = true) :
    listed value = (Text.pieces (· = ',') value.latin).filterMap fun e =>
      HeaderName.ofText? (Text.trim e) := by
  rw [listed, readable?, if_pos h]
  simp only [String.toList_ofList]

theorem mem_listed_iff {value : Bytes} {n : HeaderName} : n ∈ listed value ↔ Lists value n := by
  by_cases hread : value.all isReadableByte = true
  · have hchars := readable_latin hread
    rw [listed_readable hread, List.mem_filterMap]
    constructor
    · rintro ⟨e, he, hname⟩
      have hreadable : Readable e := fun c hc => hchars c (Text.mem_pieces _ he hc).2
      refine ⟨hread, _, (Text.intercalate_pieces ',' _).symm, fun p hp hcomma => ?_, e, he,
        (ofText?_trim_iff hreadable).mp hname⟩
      exact absurd (Text.mem_pieces _ hp hcomma).1 (by simp)
    · rintro ⟨-, es, hes, hcommas, e, he, hspells⟩
      have hpieces : Text.pieces (· = ',') value.latin = es := by
        have hfree : ∀ p ∈ es, ∀ c ∈ p, decide (c = ',') = false := fun p hp c hc =>
          decide_eq_false fun h => hcommas p hp (h ▸ hc)
        rw [hes, Text.pieces_intercalate _ ',' (by simp) es (List.ne_nil_of_mem he) hfree]
      rw [hpieces]
      have hreadable : Readable e := fun c hc =>
        hchars c (Text.mem_pieces (· = ',') (hpieces ▸ he) hc).2
      exact ⟨e, he, (ofText?_trim_iff hreadable).mpr hspells⟩
  · have hnone : listed value = [] := by
      rw [listed, readable?, if_neg hread]
    rw [hnone]
    constructor
    · intro hn
      contradiction
    · rintro ⟨hr, -⟩
      contradiction

theorem isHop_iff (h : Headers) (n : HeaderName) : h.IsHop n ↔ h.ForNextHop n := by
  have hfixed : n ∈ hopByHop ↔ n.text ∈ hopByHop.map HeaderName.text :=
    (List.mem_map_of_injective fun _ _ => HeaderName.text_inj.mp).symm
  rw [IsHop, namedByConnection, List.mem_flatMap, or_comm, hfixed]
  simp only [mem_listed_iff]
  rfl

/-! ## What is left -/

theorem fields_foldl_remove (names : List HeaderName) (h : Headers) :
    (names.foldl remove h).fields = h.fields.filter (·.1 ∉ names) := by
  induction names generalizing h with
  | nil => simp
  | cons n names ih =>
    rw [List.foldl_cons, ih, remove, List.filter_filter]
    refine List.filter_congr fun f _ => ?_
    simp [Bool.and_comm]

theorem fields_stripHopByHop (h : Headers) :
    h.stripHopByHop.fields = h.fields.filter fun f => ¬ h.IsHop f.1 := by
  rw [stripHopByHop, fields_foldl_remove]
  refine List.filter_congr fun f _ => ?_
  simp [IsHop, List.mem_append]

theorem isHop_connection (h : Headers) : h.IsHop .connection := Or.inr (by decide)

theorem stripHopByHop_idem (h : Headers) : h.stripHopByHop.stripHopByHop = h.stripHopByHop := by
  -- no connection field is left to list a name, so the second time only the eight are looked for
  have hnone : h.stripHopByHop.getAll .connection = [] := by
    rw [getAll_stripHopByHop, endToEnd, if_pos h.isHop_connection]
  have hkept : ∀ f ∈ h.stripHopByHop.fields, ¬ h.stripHopByHop.IsHop f.1 := by
    intro f hf
    rw [fields_stripHopByHop, List.mem_filter] at hf
    have hfixed : f.1 ∉ hopByHop := fun hn => of_decide_eq_true hf.2 (Or.inr hn)
    rw [IsHop, namedByConnection, hnone]
    rintro (hn | hn)
    · contradiction
    · contradiction
  have hfields := fields_stripHopByHop h.stripHopByHop
  rw [List.filter_eq_self.mpr fun f hf => decide_eq_true (hkept f hf)] at hfields
  exact congrArg Headers.mk hfields

/-! ## Elements that spell no name -/

theorem latin_joined (es : List Bytes) :
    (joined es).latin = [','].intercalate (es.map Bytes.latin) := by
  induction es with
  | nil => rfl
  | cons e es ih =>
    cases es with
    | nil => simp [joined]
    | cons e' es =>
      have hcut : joined (e :: e' :: es) = e ++ 44 :: joined (e' :: es) := by
        rw [joined, List.intercalate_cons_cons, List.append_assoc]
        rfl
      rw [List.map_cons, List.map_cons, List.intercalate_cons_cons, ← List.map_cons, ← ih, hcut,
        Bytes.latin, List.map_append, List.append_assoc]
      rfl

theorem readable_joined {es : List Bytes} (h : ∀ e ∈ es, e.all isReadableByte = true) :
    (joined es).all isReadableByte = true := by
  refine List.all_eq_true.mpr fun b hb => ?_
  rcases Text.mem_intercalate hb with rfl | ⟨e, he, hbe⟩
  · decide
  · exact List.all_eq_true.mp (h e he) b hbe

theorem listed_joined {es : List Bytes}
    (h : ∀ e ∈ es, e.all isReadableByte = true ∧ (44 : UInt8) ∉ e) :
    listed (joined es) = es.filterMap fun e => HeaderName.ofText? (Text.trim e.latin) := by
  have hfree : ∀ p ∈ es.map Bytes.latin, ∀ c ∈ p, decide (c = ',') = false := by
    intro p hp c hc
    obtain ⟨v, hv, rfl⟩ := List.mem_map.mp hp
    obtain ⟨b, hb, rfl⟩ := List.mem_map.mp hc
    refine decide_eq_false fun hcomma => (h v hv).2 ?_
    have hnumber : b.toNat = 44 := Url.ofNat_byte.symm.trans (congrArg Char.toNat hcomma)
    rwa [← show b = 44 from UInt8.toNat_inj.mp hnumber]
  cases es with
  | nil => decide
  | cons e es =>
    rw [listed_readable (readable_joined fun e he => (h e he).1), latin_joined,
      Text.pieces_intercalate (· = ',') ',' (by simp) _ (by simp) hfree, List.filterMap_map]
    rfl

theorem listed_without {front back : List Bytes} {e : Bytes}
    (h : ∀ x ∈ front ++ e :: back, x.all isReadableByte = true ∧ (44 : UInt8) ∉ x)
    (hnone : ∀ n, ¬ Spells e.latin n) :
    listed (joined (front ++ e :: back)) = listed (joined (front ++ back)) := by
  have he : e ∈ front ++ e :: back := by simp
  have hdropped : HeaderName.ofText? (Text.trim e.latin) = none := by
    refine Option.eq_none_iff_forall_ne_some.mpr fun n hn => hnone n ?_
    exact (ofText?_trim_iff (readable_latin (h e he).1)).mp hn
  have hrest : ∀ x ∈ front ++ back, x.all isReadableByte = true ∧ (44 : UInt8) ∉ x := by
    intro x hx
    rcases List.mem_append.mp hx with hx | hx
    · exact h x (by simp [hx])
    · exact h x (by simp [hx])
  rw [listed_joined h, listed_joined hrest, List.filterMap_append, List.filterMap_append,
    List.filterMap_cons, hdropped]

theorem stripHopByHop_without (before after : List (HeaderName × Bytes)) {v w : Bytes}
    (h : listed v = listed w) :
    stripHopByHop ⟨before ++ (.connection, v) :: after⟩ =
      stripHopByHop ⟨before ++ (.connection, w) :: after⟩ := by
  -- both have the same hops, and the field in which they differ is one of them
  let hv : Headers := ⟨before ++ (.connection, v) :: after⟩
  let hw : Headers := ⟨before ++ (.connection, w) :: after⟩
  have hnamed : hv.namedByConnection = hw.namedByConnection := by
    simp [hv, hw, namedByConnection, getAll, h]
  have hop : ∀ n, hv.IsHop n ↔ hw.IsHop n := fun n => by rw [IsHop, IsHop, hnamed]
  have hfields : hv.stripHopByHop.fields = hw.stripHopByHop.fields := by
    rw [fields_stripHopByHop, fields_stripHopByHop]
    simp only [hop]
    simp [hv, hw, isHop_connection]
  exact congrArg Headers.mk hfields

/-! ## Exactly the hops -/

/-- A field for the next hop is gone with all its values, and every other field keeps its values in
their order. An element of a connection field that is empty or no name might be left out of it, and
doing all this twice does no more than once. -/
theorem stripHopByHop_exact (h : Headers) :
    (∀ n, h.ForNextHop n →
      h.stripHopByHop.contains n = false ∧ h.stripHopByHop.getAll n = []) ∧
    (∀ n, ¬ h.ForNextHop n → h.stripHopByHop.getAll n = h.getAll n) ∧
    (∀ before front e back after,
      h.fields = before ++ (.connection, joined (front ++ e :: back)) :: after →
      (∀ x ∈ front ++ e :: back, x.all isReadableByte = true ∧ (44 : UInt8) ∉ x) →
      (∀ n, ¬ Spells e.latin n) →
      stripHopByHop ⟨before ++ (.connection, joined (front ++ back)) :: after⟩ =
        h.stripHopByHop) ∧
    h.stripHopByHop.stripHopByHop = h.stripHopByHop := by
  refine ⟨fun n hn => ?_, fun n hn => ?_, ?_, h.stripHopByHop_idem⟩
  · have hgone : h.stripHopByHop.getAll n = [] := by
      rw [getAll_stripHopByHop, endToEnd, if_pos ((h.isHop_iff n).mpr hn)]
    refine ⟨Bool.eq_false_iff.mpr fun hc => ?_, hgone⟩
    exact (contains_iff _ _).mp hc hgone
  · rw [getAll_stripHopByHop, endToEnd, if_neg fun hop => hn ((h.isHop_iff n).mp hop)]
  · intro before front e back after hfields helements hnone
    have hsame := stripHopByHop_without before after (listed_without helements hnone).symm
    rw [hsame, ← hfields]

/-- One element names a field in another case, with blanks around it; the last is no name. -/
theorem stripHopByHop_exact_session_hint :
    let hint : HeaderName := ⟨"x-session-hint"⟩
    let elements := ["keep-alive", " X-Session-Hint\t", ""].map Bytes.ofString
    let bad := Bytes.ofString "@bad"
    let others : List (HeaderName × Bytes) :=
      [(hint, [97]), (.contentType, [98]), (⟨"te"⟩, [99]), (hint, [100]), (.contentType, [101])]
    let h : Headers := ⟨(.connection, joined (elements ++ [bad])) :: others⟩
    (h.ForNextHop hint ∧ h.stripHopByHop.getAll hint = []) ∧
    (¬ h.ForNextHop .contentType ∧ h.stripHopByHop.getAll .contentType = [[98], [101]]) ∧
    (∀ n, ¬ Spells bad.latin n) ∧
    stripHopByHop ⟨(.connection, joined elements) :: others⟩ = h.stripHopByHop ∧
    h.stripHopByHop.stripHopByHop = h.stripHopByHop := by
  intro hint elements bad others h
  have hhint : h.ForNextHop hint := (h.isHop_iff hint).mp (by decide +kernel)
  have htype : ¬ h.ForNextHop .contentType :=
    fun hn => absurd ((h.isHop_iff .contentType).mpr hn) (by decide +kernel)
  have hread : ∀ x ∈ elements ++ [bad], x.all isReadableByte = true ∧ (44 : UInt8) ∉ x := by
    decide +kernel
  have hnone : ∀ n, ¬ Spells bad.latin n := by
    intro n hn
    have hbad : HeaderName.ofText? (Text.trim bad.latin) = none := by decide +kernel
    have hsome := (ofText?_trim_iff (readable_latin (hread bad (by simp)).1)).mpr hn
    exact nomatch hbad.symm.trans hsome
  obtain ⟨hgone, hkept, hwithout, htwice⟩ := stripHopByHop_exact h
  refine ⟨⟨hhint, (hgone hint hhint).2⟩, ⟨htype, ?_⟩, hnone, ?_, htwice⟩
  · rw [hkept .contentType htype]
    decide +kernel
  · have hsame := hwithout [] elements bad [] others rfl hread hnone
    rwa [List.append_nil, List.nil_append] at hsame

end Headers

end Http

end MatrixGateway
