import MatrixGateway.LogLevel
import MatrixGateway.Proofs.Hops
import MatrixGateway.Proofs.Numerals

/-!
# What settings of the verbosity mean

Eight words name the levels, in either case and with blanks around them, and whatever else is said
should mean `debug`. The reader of levels knows more than these words: it takes `off`, and numerals
for the ranks of the levels. So a setting beside the words means `debug` exactly if it is none of
those, and the others change the verbosity or silence it.
-/

set_option autoImplicit false

namespace MatrixGateway

theorem Text.isBlank_toLower (c : Char) : isBlank c.toLower = isBlank c := by
  by_cases hupper : 65 ≤ c.toNat ∧ c.toNat ≤ 90
  · exact of_ascii (P := fun c => isBlank c.toLower = isBlank c) (by decide) (by omega)
  · rw [(toLower_eq_iff c c).mpr (Or.inl ⟨rfl, hupper⟩)]

namespace Numeral

theorem Denotes.not_blank {s : List Char} {n : Nat} (h : Denotes s n) :
    s ≠ [] ∧ ∀ c ∈ s, Text.isBlank c = false := by
  obtain ⟨ds, hne, hdigits, hs, -⟩ := h
  have hdigit : ∀ c ∈ ds, Text.isBlank c = false := fun c hc =>
    Http.isBlank_tokenChar (by simp [Http.isTokenChar, Char.isAlphanum, hdigits c hc])
  rcases hs with rfl | rfl
  · exact ⟨hne, hdigit⟩
  · exact ⟨List.cons_ne_nil _ _, List.forall_mem_cons.mpr ⟨by decide, hdigit⟩⟩

end Numeral

namespace LogLevel

/-! ## Settings and what they say -/

def words : List (String × LogLevel) :=
  [("trace", .trace), ("debug", .debug), ("info", .info), ("warn", .warn), ("warning", .warn),
    ("error", .error), ("fatal", .error), ("panic", .error)]

def Says (setting : Option String) (s : List Char) : Prop :=
  ∃ v, setting = some v ∧ ∃ l u r, v.toList = l ++ u ++ r ∧
    (∀ c ∈ l ++ r, Text.isBlank c = true) ∧ Text.lower u = s

/-- What the reader makes of a setting before it looks for a level. -/
def plain (setting : Option String) : List Char :=
  Text.lower (Text.trim (setting.getD "").toList)

variable {setting : Option String} {s : List Char}

theorem says_iff (hne : s ≠ []) (hs : ∀ c ∈ s, Text.isBlank c = false) :
    Says setting s ↔ plain setting = s := by
  constructor
  · rintro ⟨v, rfl, l, u, r, hv, hblank, rfl⟩
    have hu : ∀ c ∈ u, Text.isBlank c = false := fun c hc =>
      (Text.isBlank_toLower c).symm.trans (hs _ (List.mem_map_of_mem hc))
    rw [plain, Option.getD_some, hv,
      Text.trim_append (fun c hc => hblank c (List.mem_append_left r hc))
        (fun c hc => hblank c (List.mem_append_right l hc)) (mt (congrArg Text.lower) hne) hu]
  · intro hplain
    cases setting with
    | none => exact absurd hplain.symm hne
    | some v =>
      obtain ⟨l, r, hv, hblank⟩ := Text.trim_split v.toList
      exact ⟨v, rfl, l, _, r, hv, hblank, hplain⟩

theorem says_numeral_iff {n : Nat} (h : Numeral.Denotes s n) :
    Says setting s ↔ plain setting = s :=
  says_iff h.not_blank.1 h.not_blank.2

theorem says_word_iff {w : String} {l : LogLevel} (h : (w, l) ∈ ("off", .off) :: words) :
    Numeral.read? (UInt64.size - 1) w.toList = none ∧
      (Says setting w.toList ↔ plain setting = w.toList) := by
  have hall : ∀ p ∈ ("off", LogLevel.off) :: words,
      Numeral.read? (UInt64.size - 1) p.1.toList = none ∧ p.1.toList ≠ [] ∧
        p.1.toList.any Text.isBlank = false := by decide +kernel
  obtain ⟨hread, hne, hblank⟩ := hall _ h
  have hkept := List.any_eq_false.mp hblank
  exact ⟨hread, says_iff hne fun c hc => eq_false_of_ne_true (hkept c hc)⟩

/-! ## The reader -/

theorem ofWord?_eq_some_iff {w : String} {l : LogLevel} :
    ofWord? w = some l ↔ (w, l) ∈ ("off", .off) :: words := by
  unfold ofWord?
  split
  all_goals simp_all [words, eq_comm]

theorem ofRank?_eq_some_iff {n : Nat} {l : LogLevel} : ofRank? n = some l ↔ l.rank = n := by
  constructor
  · intro h
    unfold ofRank? at h
    split at h <;> cases h <;> rfl
  · rintro rfl
    cases l <;> rfl

theorem ofSetting_read {n : Nat} (h : Numeral.read? (UInt64.size - 1) (plain setting) = some n) :
    ofSetting setting = (ofRank? n).getD .debug := by
  unfold ofSetting
  dsimp only
  split
  · rename_i m hm
    rw [Option.some.inj (hm.symm.trans h)]
  · rename_i hnone
    exact nomatch hnone.symm.trans h

theorem ofSetting_unread (h : Numeral.read? (UInt64.size - 1) (plain setting) = none) :
    ofSetting setting = (ofWord? (String.ofList (plain setting))).getD .debug := by
  unfold ofSetting
  dsimp only
  split
  · rename_i hsome
    exact nomatch hsome.symm.trans h
  · rfl

theorem ofSetting_word {w : String} {l : LogLevel} (h : (w, l) ∈ ("off", .off) :: words)
    (hsaid : Says setting w.toList) : ofSetting setting = l := by
  obtain ⟨hread, hiff⟩ := @says_word_iff setting w l h
  have hplain : plain setting = w.toList := hiff.mp hsaid
  rw [ofSetting_unread (hplain ▸ hread), hplain, String.ofList_toList, ofWord?_eq_some_iff.mpr h]
  rfl

theorem ofSetting_rank {l : LogLevel} (hsaid : Says setting s) (hn : Numeral.Denotes s l.rank) :
    ofSetting setting = l := by
  have hplain : plain setting = s := (says_numeral_iff hn).mp hsaid
  have hsmall : l.rank ≤ UInt64.size - 1 := by cases l <;> decide
  rw [ofSetting_read (Numeral.read?_eq_some_iff.mpr ⟨hplain ▸ hn, hsmall⟩),
    ofRank?_eq_some_iff.mpr rfl]
  rfl

theorem ofSetting_other (hwords : ∀ w l, (w, l) ∈ ("off", .off) :: words → ¬ Says setting w.toList)
    (hranks : ∀ s l, Says setting s → ¬ Numeral.Denotes s (rank l)) :
    ofSetting setting = .debug := by
  cases hread : Numeral.read? (UInt64.size - 1) (plain setting) with
  | some n =>
    have hn := (Numeral.read?_eq_some_iff.mp hread).1
    rw [ofSetting_read hread]
    cases hrank : ofRank? n with
    | none => rfl
    | some l =>
      have hsaid := (@says_numeral_iff setting _ n hn).mpr rfl
      exact absurd (ofRank?_eq_some_iff.mp hrank ▸ hn) (hranks _ l hsaid)
  | none =>
    rw [ofSetting_unread hread]
    cases hword : ofWord? (String.ofList (plain setting)) with
    | none => rfl
    | some l =>
      have hmem := ofWord?_eq_some_iff.mp hword
      exact absurd ((says_word_iff hmem).2.mpr String.toList_ofList.symm) (hwords _ l hmem)

/-! ## What is meant -/

/-- Each word means its level. A setting that is none of the words means `debug` exactly if it is
neither `off` nor a numeral for the rank of another level. A numeral for a rank means that level,
and `off` that nothing is shown. -/
theorem ofSetting_debug_iff (setting : Option String) :
    (∀ w l, (w, l) ∈ words → Says setting w.toList → ofSetting setting = l) ∧
    ((∀ w l, (w, l) ∈ words → ¬ Says setting w.toList) →
      (ofSetting setting = .debug ↔ ¬ Says setting "off".toList ∧
        ∀ s l, Says setting s → Numeral.Denotes s (rank l) → l = .debug)) ∧
    (∀ s l, Says setting s → Numeral.Denotes s (rank l) → ofSetting setting = l) ∧
    (Says setting "off".toList →
      ∀ source m, (ofSetting setting).shows source m = true → m = .off) := by
  have hoff : ("off", LogLevel.off) ∈ ("off", .off) :: words := List.mem_cons_self
  refine ⟨fun w l h => ofSetting_word (List.mem_cons_of_mem _ h), fun hwords => ⟨fun hdebug => ?_,
    fun ⟨hnot, hranks⟩ => ?_⟩, fun s l => ofSetting_rank, fun hsaid source m hshown => ?_⟩
  · refine ⟨fun hsaid => ?_, fun s l hsaid hn => (ofSetting_rank hsaid hn).symm.trans hdebug⟩
    exact nomatch hdebug.symm.trans (ofSetting_word hoff hsaid)
  · by_cases hrank : ∃ s l, Says setting s ∧ Numeral.Denotes s (rank l)
    · obtain ⟨s, l, hsaid, hn⟩ := hrank
      rw [ofSetting_rank hsaid hn, hranks s l hsaid hn]
    · refine ofSetting_other (fun w l h hsaid => ?_) fun s l hsaid hn => hrank ⟨s, l, hsaid, hn⟩
      rcases List.mem_cons.mp h with heq | h
      · obtain ⟨rfl, -⟩ := Prod.mk.inj heq
        exact hnot hsaid
      · exact hwords w l h hsaid
  · have hlimit : m.rank ≤ 0 := by
      rw [ofSetting_word hoff hsaid, shows] at hshown
      split at hshown <;> exact of_decide_eq_true hshown
    cases m with
    | off => rfl
    | _ => exact absurd hlimit (by decide)

/-- A setting beside the words silences everything, and another shows more than is shown by
`debug`. -/
theorem beside_words_not_debug :
    ((∀ w l, (w, l) ∈ words → ¬ Says (some "off") w.toList) ∧ ofSetting (some "off") = .off) ∧
      (∀ w l, (w, l) ∈ words → ¬ Says (some " +05") w.toList) ∧
      ofSetting (some " +05") = .trace := by
  have hother : ∀ p ∈ words,
      plain (some "off") ≠ p.1.toList ∧ plain (some " +05") ≠ p.1.toList := by
    decide +kernel
  have hsaid : ∀ {setting : Option String} {w : String} {l : LogLevel}, (w, l) ∈ words →
      Says setting w.toList → plain setting = w.toList := fun h =>
    (says_word_iff (List.mem_cons_of_mem _ h)).2.mp
  exact ⟨⟨fun w l h hs => (hother _ h).1 (hsaid h hs), by decide +kernel⟩,
    fun w l h hs => (hother _ h).2 (hsaid h hs), by decide +kernel⟩

end LogLevel

end MatrixGateway
