import MatrixGateway.Proofs.Numerals
import MatrixGateway.Proofs.Overlays

/-!
# What each variable says

A variable is present if it is set to a text that is not empty. A flag takes every text, and a
number takes the numerals below the bound of its field. The first variable, in the order in which
they are read, that is present and takes no such text is the one that is reported. Where there is
none, the fields of the variables that are present hold what their values mean, and the others are
as they were.
-/

set_option autoImplicit false

namespace MatrixGateway.Transport

namespace Override

/-! ## What a value means -/

/-- The first number too large for the field of a variable. A flag has none. -/
def bound? : Override → Option Nat
  | insecureSkipVerify | observeEnabled => none
  | keepAliveMaxRetries | transmissionNStart | transmissionMaxRetransmits => some UInt32.size
  | flightIntervalSecs | heartbeatTimeoutSecs | keepAliveTimeoutSecs | transmissionAckTimeoutSecs
  | observeBufferSize | observeNoResponseTimeoutSecs => some UInt64.size

def IsMisread (o : Override) (value : String) : Prop :=
  ∃ bound, o.bound? = some bound ∧ ¬ ∃ n < bound, Numeral.Denotes value.toList n

def Overflows (o : Override) (value : String) : Prop :=
  ∃ bound, o.bound? = some bound ∧ Numeral.Outgrows (bound - 1) value.toList

def Means (value : String) : (o : Override) → o.Value → Prop
  | insecureSkipVerify, (b : Bool) | observeEnabled, (b : Bool) => b = true ↔ value = "1"
  | keepAliveMaxRetries, (n : UInt32) | transmissionNStart, (n : UInt32)
  | transmissionMaxRetransmits, (n : UInt32) => Numeral.Denotes value.toList n.toNat
  | flightIntervalSecs, (n : UInt64) | heartbeatTimeoutSecs, (n : UInt64)
  | keepAliveTimeoutSecs, (n : UInt64) | transmissionAckTimeoutSecs, (n : UInt64)
  | observeBufferSize, (n : UInt64) | observeNoResponseTimeoutSecs, (n : UInt64) =>
    Numeral.Denotes value.toList n.toNat

theorem map_ok_iff {ε α β : Type} {f : α → β} {x : Except ε α} {b : β} :
    x.map f = .ok b ↔ ∃ a, x = .ok a ∧ f a = b := by
  cases x with
  | error cause => exact ⟨fun h => (nomatch h), fun ⟨_, h, _⟩ => nomatch h⟩
  | ok a => simp [Except.map]

theorem map_error_iff {ε α β : Type} {f : α → β} {x : Except ε α} {cause : ε} :
    x.map f = .error cause ↔ x = .error cause := by
  cases x <;> simp [Except.map]

theorem read_word_iff {Word : Type} {word : Nat → Word} {number : Word → Nat} {limit : Nat}
    (hword : ∀ w, word (number w) = w) (hnumber : ∀ n ≤ limit, number (word n) = n)
    (hlimit : ∀ w, number w ≤ limit) {s : List Char} {w : Word} :
    (Numeral.read limit s).map word = .ok w ↔ Numeral.Denotes s (number w) := by
  simp only [map_ok_iff, Numeral.read_eq_ok_iff]
  constructor
  · rintro ⟨n, ⟨hmeant, hle⟩, rfl⟩
    rwa [hnumber n hle]
  · intro hmeant
    exact ⟨number w, ⟨hmeant, hlimit w⟩, hword w⟩

theorem word32_eq_ok_iff {value : String} {n : UInt32} :
    word32 value = .ok n ↔ Numeral.Denotes value.toList n.toNat :=
  read_word_iff (fun _ => UInt32.ofNat_toNat)
    (fun _ hle => UInt32.toNat_ofNat_of_lt' (Nat.lt_of_le_pred (by decide) hle))
    fun w => Nat.le_pred_of_lt w.toNat_lt

theorem word64_eq_ok_iff {value : String} {n : UInt64} :
    word64 value = .ok n ↔ Numeral.Denotes value.toList n.toNat :=
  read_word_iff (fun _ => UInt64.ofNat_toNat)
    (fun _ hle => UInt64.toNat_ofNat_of_lt' (Nat.lt_of_le_pred (by decide) hle))
    fun w => Nat.le_pred_of_lt w.toNat_lt

theorem flag_eq_iff {value : String} {b : Bool} : flag value = b ↔ (b = true ↔ value = "1") := by
  by_cases h : value = "1"
  · cases b <;> simp [flag, h]
  · cases b <;> simp [flag, h]

theorem parse_eq_ok_iff {o : Override} {value : String} {v : o.Value} :
    o.parse value = .ok v ↔ o.Means value v := by
  cases o with
  | insecureSkipVerify | observeEnabled => exact (Except.ok.injEq ..).to_iff.trans flag_eq_iff
  | keepAliveMaxRetries | transmissionNStart | transmissionMaxRetransmits => exact word32_eq_ok_iff
  | flightIntervalSecs | heartbeatTimeoutSecs | keepAliveTimeoutSecs | transmissionAckTimeoutSecs
  | observeBufferSize | observeNoResponseTimeoutSecs => exact word64_eq_ok_iff

theorem parse_flag {o : Override} (h : o.bound? = none) (value : String) (cause : NumeralError) :
    o.parse value ≠ .error cause := by
  cases o with
  | insecureSkipVerify | observeEnabled => exact fun h => nomatch h
  | _ => exact nomatch h

theorem parse_number {o : Override} {bound : Nat} (h : o.bound? = some bound) (value : String)
    (cause : NumeralError) : o.parse value = .error cause ↔
      Numeral.read (bound - 1) value.toList = .error cause := by
  cases o with
  | insecureSkipVerify | observeEnabled => exact nomatch h
  | _ => cases h; exact map_error_iff

theorem bound_pos {o : Override} {bound : Nat} (h : o.bound? = some bound) : 0 < bound := by
  cases o with
  | insecureSkipVerify | observeEnabled => exact nomatch h
  | _ => cases h; decide

theorem parse_eq_error_iff {o : Override} {value : String} {cause : NumeralError} (h : value ≠ "") :
    o.parse value = .error cause ↔ o.IsMisread value ∧
      (cause = .tooLarge ∧ o.Overflows value ∨ cause = .invalidDigit ∧ ¬ o.Overflows value) := by
  cases hbound : o.bound? with
  | none =>
    refine ⟨fun herr => absurd herr (parse_flag hbound value cause), fun ⟨⟨bound, hb, _⟩, _⟩ => ?_⟩
    rw [hbound] at hb
    contradiction
  | some bound =>
    have hlt : ∀ n, n ≤ bound - 1 ↔ n < bound := fun n =>
      (Nat.lt_iff_le_pred (bound_pos hbound)).symm
    have hne : value.toList ≠ [] := fun hnil => h (String.toList_eq_nil_iff.mp hnil)
    rw [parse_number hbound, Numeral.read_eq_error_iff hne]
    simp only [IsMisread, Overflows, hbound, Option.some.injEq, exists_eq_left', hlt]

theorem exists_parse_error_iff {o : Override} {value : String} (h : value ≠ "") :
    (∃ cause, o.parse value = .error cause) ↔ o.IsMisread value := by
  simp only [parse_eq_error_iff h]
  constructor
  · rintro ⟨cause, hmisread, -⟩
    exact hmisread
  · intro hmisread
    by_cases hover : o.Overflows value
    · exact ⟨.tooLarge, hmisread, Or.inl ⟨rfl, hover⟩⟩
    · exact ⟨.invalidDigit, hmisread, Or.inr ⟨rfl, hover⟩⟩

/-! ## Which variable is reported -/

variable (env : Environment)

def IsPresent (o : Override) (value : String) : Prop := env o.name = some value ∧ value ≠ ""

/-- The variable is present and misread, and none that is read before it is. -/
def IsFirstMisread (o : Override) (value : String) : Prop :=
  o.IsPresent env value ∧ o.IsMisread value ∧ ∃ front back, all = front ++ o :: back ∧
    ∀ a ∈ front, ∀ v, a.IsPresent env v → ¬ a.IsMisread v

theorem present?_eq_some_iff {o : Override} {value : String} :
    o.present? env = some value ↔ o.IsPresent env value := by
  simp [present?, IsPresent, Option.filter_eq_some_iff]

theorem present?_eq_none_iff {o : Override} :
    o.present? env = none ↔ ∀ value, ¬ o.IsPresent env value := by
  simp only [Option.eq_none_iff_forall_ne_some, ne_eq, present?_eq_some_iff]

theorem isBad_iff {o : Override} :
    o.isBad env = true ↔ ∃ value, o.IsPresent env value ∧ o.IsMisread value := by
  constructor
  · intro hbad
    obtain ⟨value, cause, hv, hx⟩ := exists_parse_error env hbad
    have hpresent := (present?_eq_some_iff env).mp hv
    exact ⟨value, hpresent, (exists_parse_error_iff hpresent.2).mp ⟨cause, hx⟩⟩
  · rintro ⟨value, hpresent, hmisread⟩
    obtain ⟨cause, hx⟩ := (exists_parse_error_iff hpresent.2).mpr hmisread
    exact isBad_of_error env ((present?_eq_some_iff env).mpr hpresent) hx

theorem isBad_eq_false_iff {o : Override} :
    o.isBad env = false ↔ ∀ value, o.IsPresent env value → ¬ o.IsMisread value := by
  rw [← Bool.not_eq_true, isBad_iff]
  simp only [not_exists, not_and]

theorem read_cons_good {o : Override} (h : o.isBad env = false) (os : List Override) (p : Params) :
    ∃ q, read env (o :: os) p = read env os q := by
  rw [read]
  cases hv : o.present? env with
  | none => exact ⟨p, rfl⟩
  | some value =>
    obtain ⟨v, hx⟩ := exists_parse_ok env h hv
    exact ⟨o.assign p v, by simp only [put_eq, hx, Except.map]⟩

theorem read_eq_error_iff {os : List Override} {p : Params} {e : OverlayError} :
    read env os p = .error e ↔ ∃ o, e.name = o.name ∧ o.present? env = some e.value ∧
      o.parse e.value = .error e.cause ∧
      ∃ front back, os = front ++ o :: back ∧ ∀ a ∈ front, a.isBad env = false := by
  induction os generalizing p with
  | nil => exact ⟨fun h => (nomatch h), fun ⟨_, _, _, _, front, _, h, _⟩ => by simp at h⟩
  | cons o os ih =>
    cases hbad : o.isBad env with
    | true =>
      obtain ⟨value, cause, hv, hparse⟩ := exists_parse_error env hbad
      have hread : read env (o :: os) p = .error ⟨o.name, value, cause⟩ := by
        rw [read, hv]
        simp only [put_eq, hparse, Except.map]
      rw [hread]
      constructor
      · rintro ⟨⟩
        exact ⟨o, rfl, hv, hparse, [], os, rfl, by simp⟩
      · -- nothing stands before `o`, since it is bad itself
        rintro ⟨a, hname, ha, hcause, front, back, hsplit, hfront⟩
        cases front with
        | cons b front =>
          obtain rfl := (List.cons.inj hsplit).1
          exact absurd (hfront o List.mem_cons_self) (by simp [hbad])
        | nil =>
          obtain rfl := (List.cons.inj hsplit).1
          obtain rfl := Option.some.inj (hv.symm.trans ha)
          obtain rfl := Except.error.inj (hparse.symm.trans hcause)
          rw [← hname]
    | false =>
      obtain ⟨q, hq⟩ := read_cons_good env hbad os p
      rw [hq, ih]
      refine exists_congr fun a => and_congr_right fun _ => and_congr_right fun ha =>
        and_congr_right fun hcause => ?_
      constructor
      · rintro ⟨front, back, rfl, hfront⟩
        exact ⟨o :: front, back, rfl, List.forall_mem_cons.mpr ⟨hbad, hfront⟩⟩
      · rintro ⟨front, back, hsplit, hfront⟩
        cases front with
        | nil =>
          obtain rfl := (List.cons.inj hsplit).1
          rw [isBad_of_error env ha hcause] at hbad
          contradiction
        | cons b front =>
          obtain ⟨-, rfl⟩ := List.cons.inj hsplit
          exact ⟨front, back, rfl, (List.forall_mem_cons.mp hfront).2⟩

/-! ## The record -/

theorem isBad_eq_false_of_means {o : Override} {value : String} {v : o.Value}
    (hpresent : o.IsPresent env value) (h : o.Means value v) : o.isBad env = false := by
  rw [isBad, (present?_eq_some_iff env).mpr hpresent, Option.any_some, parse_eq_ok_iff.mpr h]
  rfl

theorem eq_given?_getD_iff {o : Override} (h : o.isBad env = false) {v x : o.Value} :
    v = (o.given? env).getD x ↔ (∀ value, o.IsPresent env value → o.Means value v) ∧
      ((∀ value, ¬ o.IsPresent env value) → v = x) := by
  cases hpresent : o.present? env with
  | none =>
    have habsent := (present?_eq_none_iff env).mp hpresent
    simp [given?, hpresent, habsent]
  | some value =>
    have hvalue := (present?_eq_some_iff env).mp hpresent
    have honly : ∀ other, o.IsPresent env other → other = value := fun other hother =>
      Option.some.inj (hother.1.symm.trans hvalue.1)
    obtain ⟨w, hparse⟩ := exists_parse_ok env h hpresent
    have hgiven : (o.given? env).getD x = w := by
      simp [given?, hpresent, hparse, Except.toOption]
    rw [hgiven]
    constructor
    · rintro rfl
      refine ⟨fun other hother => ?_, fun habsent => absurd hvalue (habsent value)⟩
      rw [honly other hother]
      exact parse_eq_ok_iff.mp hparse
    · rintro ⟨hmeans, -⟩
      have hv := parse_eq_ok_iff.mpr (hmeans value hvalue)
      exact Except.ok.inj (hv.symm.trans hparse)

theorem eq_of_fields {p q : Params} (h : ∀ o : Override, o.field p = o.field q) : p = q := by
  cases p
  cases q
  exact (Params.mk.injEq ..).mpr ⟨h insecureSkipVerify, h flightIntervalSecs,
    h heartbeatTimeoutSecs, h keepAliveMaxRetries, h keepAliveTimeoutSecs, h transmissionNStart,
    h transmissionAckTimeoutSecs, h transmissionMaxRetransmits, h observeEnabled,
    h observeBufferSize, h observeNoResponseTimeoutSecs⟩

theorem isRefused_iff : isRefused env = true ↔ ∃ o : Override, o.isBad env = true := by
  rw [isRefused, List.any_eq_true]
  constructor
  · rintro ⟨o, -, hbad⟩
    exact ⟨o, hbad⟩
  · rintro ⟨o, hbad⟩
    exact ⟨o, o.mem_all, hbad⟩

theorem isSilent_iff : isSilent env = true ↔ ∀ (o : Override) (value), ¬ o.IsPresent env value := by
  simp only [isSilent, List.all_eq_true, Option.isNone_iff_eq_none, present?_eq_none_iff]
  exact ⟨fun h o => h o o.mem_all, fun h o _ => h o⟩

end Override

namespace Params

variable (p : Params) (env : Environment)

theorem overlay_eq_error_iff {e : OverlayError} :
    p.overlay env = .error e ↔ Override.read env Override.all p = .error e :=
  Override.map_error_iff

theorem exists_overlay_error_iff :
    (∃ e, p.overlay env = .error e) ↔ Override.isRefused env = true := by
  simp only [overlay_eq_error_iff, Override.isRefused_iff]
  constructor
  · rintro ⟨e, he⟩
    obtain ⟨o, -, hpresent, hparse, -⟩ := (Override.read_eq_error_iff env).mp he
    exact ⟨o, Override.isBad_of_error env hpresent hparse⟩
  · rintro ⟨o, hbad⟩
    obtain ⟨_, _, _, _, _, _, hread⟩ := Override.read_bad env ⟨o, o.mem_all, hbad⟩ p
    exact ⟨_, hread⟩

theorem overlay_none_iff :
    p.overlay env = .ok none ↔ ∀ (o : Override) (value), ¬ o.IsPresent env value := by
  rw [← Override.isSilent_iff]
  cases hrefused : Override.isRefused env with
  | true =>
    obtain ⟨e, he⟩ := (p.exists_overlay_error_iff env).mpr hrefused
    obtain ⟨o, hbad⟩ := (Override.isRefused_iff env).mp hrefused
    obtain ⟨value, hpresent, -⟩ := (Override.isBad_iff env).mp hbad
    rw [he]
    refine ⟨fun h => (nomatch h), fun hsilent => ?_⟩
    exact absurd hpresent ((Override.isSilent_iff env).mp hsilent o value)
  | false =>
    obtain ⟨q, hq, -⟩ := p.overlay_accepted env hrefused
    rw [hq]
    cases Override.isSilent env <;> simp

theorem overlay_some_iff {q : Params} : p.overlay env = .ok (some q) ↔
    (∃ (o : Override) (value : _), o.IsPresent env value) ∧
      ∀ o : Override, (∀ value, o.IsPresent env value → o.Means value (o.field q)) ∧
        ((∀ value, ¬ o.IsPresent env value) → o.field q = o.field p) := by
  cases hrefused : Override.isRefused env with
  | true =>
    obtain ⟨e, he⟩ := (p.exists_overlay_error_iff env).mpr hrefused
    obtain ⟨o, hbad⟩ := (Override.isRefused_iff env).mp hrefused
    obtain ⟨value, hpresent, -⟩ := (Override.isBad_iff env).mp hbad
    refine ⟨fun h => (nomatch he.symm.trans h), fun ⟨_, hfields⟩ => ?_⟩
    have hgood := Override.isBad_eq_false_of_means env hpresent ((hfields o).1 value hpresent)
    exact absurd (hbad.symm.trans hgood) Bool.noConfusion
  | false =>
    -- the record that comes out is settled by its fields, so `q` is compared with it field by field
    obtain ⟨r, hr, hfields⟩ := p.overlay_accepted env hrefused
    have hgood : ∀ o : Override, o.isBad env = false := fun o =>
      Bool.eq_false_iff.mpr fun hbad =>
        Bool.false_ne_true (hrefused.symm.trans ((Override.isRefused_iff env).mpr ⟨o, hbad⟩))
    have hpresent : (∃ (o : Override) (value : _), o.IsPresent env value) ↔
        Override.isSilent env = false := by
      rw [← Bool.not_eq_true, Override.isSilent_iff]
      simp only [Classical.not_forall, Classical.not_not]
    have hrecord : q = r ↔ ∀ o : Override, o.field q = (o.given? env).getD (o.field p) :=
      ⟨fun h o => h ▸ hfields o, fun h =>
        Override.eq_of_fields fun o => (h o).trans (hfields o).symm⟩
    simp only [← Override.eq_given?_getD_iff env (hgood _), ← hrecord, hpresent, hr]
    cases Override.isSilent env <;> simp [eq_comm]

/-- The overlay is refused exactly when a variable that wants a number is present with no numeral
below its bound, and the first such variable is named with its value. It gives no record exactly
when no variable is present. Otherwise it gives the record in which each field with a variable that
is present holds what the value means, and each other field what it held. -/
theorem overlay_by_variable :
    ((∃ e, p.overlay env = .error e) ↔
      ∃ (o : Override) (value : _), o.IsPresent env value ∧ o.IsMisread value) ∧
    (∀ e, p.overlay env = .error e ↔ ∃ o : Override, o.IsFirstMisread env e.value ∧
      e.name = o.name ∧ (e.cause = .tooLarge ∧ o.Overflows e.value ∨
        e.cause = .invalidDigit ∧ ¬ o.Overflows e.value)) ∧
    (p.overlay env = .ok none ↔ ∀ (o : Override) (value : _), ¬ o.IsPresent env value) ∧
    (∀ q, p.overlay env = .ok (some q) ↔
      (∃ (o : Override) (value : _), o.IsPresent env value) ∧
        ∀ o : Override, (∀ value, o.IsPresent env value → o.Means value (o.field q)) ∧
          ((∀ value, ¬ o.IsPresent env value) → o.field q = o.field p)) := by
  refine ⟨?_, fun e => ?_, p.overlay_none_iff env, fun q => p.overlay_some_iff env⟩
  · rw [exists_overlay_error_iff, Override.isRefused_iff]
    exact exists_congr fun o => Override.isBad_iff env
  · rw [overlay_eq_error_iff, Override.read_eq_error_iff]
    refine exists_congr fun o => ?_
    simp only [Override.IsFirstMisread, Override.present?_eq_some_iff, Override.isBad_eq_false_iff]
    constructor
    · rintro ⟨hname, hpresent, hparse, hfirst⟩
      obtain ⟨hmisread, hcause⟩ := (Override.parse_eq_error_iff hpresent.2).mp hparse
      exact ⟨⟨hpresent, hmisread, hfirst⟩, hname, hcause⟩
    · rintro ⟨⟨hpresent, hmisread, hfirst⟩, hname, hcause⟩
      exact ⟨hname, hpresent, (Override.parse_eq_error_iff hpresent.2).mpr ⟨hmisread, hcause⟩,
        hfirst⟩

/-- Zeros in front do not count, and a number one past 32 bits is refused by name. -/
theorem overlay_by_variable_at_the_bound :
    let low : Environment := fun name =>
      if name = "LB_FLIGHT_INTERVAL_SECS" then some "+007" else none
    let high : Environment := fun name =>
      if name = "LB_TRANSMISSION_NSTART" then some "4294967296" else low name
    (Override.flightIntervalSecs.Means "+007" (7 : UInt64) ∧
      ({} : Params).overlay low = .ok (some { flightIntervalSecs := 7 })) ∧
    ({} : Params).overlay high = .error ⟨"LB_TRANSMISSION_NSTART", "4294967296", .tooLarge⟩ ∧
      Override.transmissionNStart.IsFirstMisread high "4294967296" := by
  intro low high
  have hmeans : Override.flightIntervalSecs.Means "+007" (7 : UInt64) :=
    ⟨['0', '0', '7'], by decide, by simp, Or.inr (by decide), by decide⟩
  have hlow : ({} : Params).overlay low = .ok (some { flightIntervalSecs := 7 }) := by
    refine ((overlay_by_variable {} low).2.2.2 _).mpr
      ⟨⟨.flightIntervalSecs, "+007", by decide, by decide⟩, fun o => ?_⟩
    cases o with
    | flightIntervalSecs =>
      refine ⟨fun value hvalue => ?_, fun habsent => absurd ⟨by decide, by decide⟩ (habsent "+007")⟩
      obtain rfl : "+007" = value := Option.some.inj hvalue.1
      exact hmeans
    | _ => exact ⟨fun value hvalue => (nomatch hvalue.1), fun _ => rfl⟩
  have hhigh : ({} : Params).overlay high =
      .error ⟨"LB_TRANSMISSION_NSTART", "4294967296", .tooLarge⟩ := by
    rfl
  obtain ⟨o, hfirst, hname, -⟩ := ((overlay_by_variable {} high).2.1 _).mp hhigh
  refine ⟨⟨hmeans, hlow⟩, hhigh, ?_⟩
  cases o with
  | transmissionNStart => exact hfirst
  | _ => exact absurd hname (by decide)

end Params

end MatrixGateway.Transport
