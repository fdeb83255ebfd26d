import MatrixGateway.Transport.Overlay

/-!
# Overlays, one after another

An environment is refused for one bad numeral, and then nothing of it is used.
Otherwise each variable that is present decides its own field, and no other.
Overlays add up: after any number of environments a field holds what the last
accepted one with its variable said, and the engine's record was replaced once
for each accepted environment that had a variable at all.
-/

set_option autoImplicit false

namespace MatrixGateway.Transport

namespace Override

/-! ## One field for each variable -/

def Value : Override → Type
  | insecureSkipVerify | observeEnabled => Bool
  | keepAliveMaxRetries | transmissionNStart | transmissionMaxRetransmits => UInt32
  | flightIntervalSecs | heartbeatTimeoutSecs | keepAliveTimeoutSecs | transmissionAckTimeoutSecs
  | observeBufferSize | observeNoResponseTimeoutSecs => UInt64

def field (p : Params) : (o : Override) → o.Value
  | insecureSkipVerify => p.insecureSkipVerify
  | flightIntervalSecs => p.flightIntervalSecs
  | heartbeatTimeoutSecs => p.heartbeatTimeoutSecs
  | keepAliveMaxRetries => p.keepAliveMaxRetries
  | keepAliveTimeoutSecs => p.keepAliveTimeoutSecs
  | transmissionNStart => p.transmissionNStart
  | transmissionAckTimeoutSecs => p.transmissionAckTimeoutSecs
  | transmissionMaxRetransmits => p.transmissionMaxRetransmits
  | observeEnabled => p.observeEnabled
  | observeBufferSize => p.observeBufferSize
  | observeNoResponseTimeoutSecs => p.observeNoResponseTimeoutSecs

def assign (p : Params) : (o : Override) → o.Value → Params
  | insecureSkipVerify, b => { p with insecureSkipVerify := b }
  | flightIntervalSecs, n => { p with flightIntervalSecs := n }
  | heartbeatTimeoutSecs, n => { p with heartbeatTimeoutSecs := n }
  | keepAliveMaxRetries, n => { p with keepAliveMaxRetries := n }
  | keepAliveTimeoutSecs, n => { p with keepAliveTimeoutSecs := n }
  | transmissionNStart, n => { p with transmissionNStart := n }
  | transmissionAckTimeoutSecs, n => { p with transmissionAckTimeoutSecs := n }
  | transmissionMaxRetransmits, n => { p with transmissionMaxRetransmits := n }
  | observeEnabled, b => { p with observeEnabled := b }
  | observeBufferSize, n => { p with observeBufferSize := n }
  | observeNoResponseTimeoutSecs, n => { p with observeNoResponseTimeoutSecs := n }

def parse (value : String) : (o : Override) → Except NumeralError o.Value
  | insecureSkipVerify | observeEnabled => .ok (flag value)
  | keepAliveMaxRetries | transmissionNStart | transmissionMaxRetransmits => word32 value
  | flightIntervalSecs | heartbeatTimeoutSecs | keepAliveTimeoutSecs | transmissionAckTimeoutSecs
  | observeBufferSize | observeNoResponseTimeoutSecs => word64 value

theorem mem_all (o : Override) : o ∈ all := by
  cases o <;> decide

theorem put_eq (o : Override) (value : String) (p : Params) :
    o.put value p = (o.parse value).map (o.assign p) := by
  cases o <;> rfl

theorem field_assign (o : Override) (v : o.Value) (p : Params) : o.field (o.assign p v) = v := by
  cases o <;> rfl

theorem field_assign_ne {a o : Override} (h : a ≠ o) (v : o.Value) (p : Params) :
    a.field (o.assign p v) = a.field p := by
  cases o <;> cases a <;> first | rfl | exact absurd rfl h

/-! ## One environment -/

variable (env : Environment)

/-- What an environment says of a field, if its variable is present and can be read. -/
def given? (o : Override) : Option o.Value := (o.present? env).bind fun v => (o.parse v).toOption

def isBad (o : Override) : Bool := (o.present? env).any fun v => !(o.parse v).isOk

theorem isBad_of_error {o : Override} {value : String} {cause : NumeralError}
    (hv : o.present? env = some value) (hx : o.parse value = .error cause) :
    o.isBad env = true := by
  rw [isBad, hv, Option.any_some, hx]
  rfl

theorem exists_parse_error {o : Override} (h : o.isBad env = true) :
    ∃ value cause, o.present? env = some value ∧ o.parse value = .error cause := by
  obtain ⟨value, hv, hrefused⟩ := (Option.any_eq_true _ _).mp h
  cases hx : o.parse value with
  | error cause => exact ⟨value, cause, hv, hx⟩
  | ok v =>
    rw [hx] at hrefused
    contradiction

theorem exists_parse_ok {o : Override} {value : String} (h : o.isBad env = false)
    (hv : o.present? env = some value) : ∃ v, o.parse value = .ok v := by
  cases hx : o.parse value with
  | ok v => exact ⟨v, rfl⟩
  | error cause =>
    rw [isBad_of_error env hv hx] at h
    contradiction

def isRefused : Bool := all.any (isBad env)

def isSilent : Bool := all.all fun o => (o.present? env).isNone

theorem read_fields {os : List Override} (h : ∀ o ∈ os, o.isBad env = false) (p : Params) :
    ∃ q, read env os p = .ok q ∧
      ∀ a : Override,
        a.field q = if a ∈ os then (a.given? env).getD (a.field p) else a.field p := by
  induction os generalizing p with
  | nil => exact ⟨p, rfl, fun a => by simp⟩
  | cons o os ih =>
    have hrest : ∀ a ∈ os, a.isBad env = false := fun a ha => h a (List.mem_cons_of_mem _ ha)
    have ho := h o List.mem_cons_self
    cases hv : o.present? env with
    | none =>
      obtain ⟨q, hq, hfields⟩ := ih hrest p
      refine ⟨q, by simpa only [read, hv] using hq, fun a => ?_⟩
      have hgiven : o.given? env = none := by rw [given?, hv]; rfl
      rw [hfields a]
      by_cases ha : a = o
      · subst ha
        simp [hgiven]
      · simp [ha]
    | some value =>
      obtain ⟨x, hx⟩ := exists_parse_ok env ho hv
      obtain ⟨q, hq, hfields⟩ := ih hrest (o.assign p x)
      refine ⟨q, ?_, fun a => ?_⟩
      · rw [read, hv]
        simp only [put_eq, hx, Except.map]
        exact hq
      · have hgiven : o.given? env = some x := by rw [given?, hv]; simp [hx, Except.toOption]
        rw [hfields a]
        by_cases ha : a = o
        · subst ha
          simp [hgiven, field_assign]
        · simp [ha, field_assign_ne ha]

theorem read_bad {os : List Override} (h : ∃ o ∈ os, o.isBad env = true) (p : Params) :
    ∃ o ∈ os, ∃ value cause, o.present? env = some value ∧ o.parse value = .error cause ∧
      read env os p = .error ⟨o.name, value, cause⟩ := by
  induction os generalizing p with
  | nil => simp at h
  | cons o os ih =>
    cases hv : o.present? env with
    | none =>
      have hrest : ∃ a ∈ os, a.isBad env = true := by
        obtain ⟨a, ha, hbad⟩ := h
        rcases List.mem_cons.mp ha with rfl | ha
        · simp [isBad, hv] at hbad
        · exact ⟨a, ha, hbad⟩
      obtain ⟨a, ha, value, cause, hpresent, hparse, hread⟩ := ih hrest p
      refine ⟨a, List.mem_cons_of_mem _ ha, value, cause, hpresent, hparse, ?_⟩
      simpa only [read, hv] using hread
    | some value =>
      cases hx : o.parse value with
      | error cause =>
        refine ⟨o, List.mem_cons_self, value, cause, hv, hx, ?_⟩
        rw [read, hv]
        simp only [put_eq, hx, Except.map]
      | ok x =>
        have hrest : ∃ a ∈ os, a.isBad env = true := by
          obtain ⟨a, ha, hbad⟩ := h
          rcases List.mem_cons.mp ha with rfl | ha
          · simp [isBad, hv, hx, Except.isOk, Except.toBool] at hbad
          · exact ⟨a, ha, hbad⟩
        obtain ⟨a, ha, bad, cause, hpresent, hparse, hread⟩ := ih hrest (o.assign p x)
        refine ⟨a, List.mem_cons_of_mem _ ha, bad, cause, hpresent, hparse, ?_⟩
        rw [read, hv]
        simp only [put_eq, hx, Except.map]
        exact hread

theorem given?_silent (h : isSilent env = true) (o : Override) : o.given? env = none := by
  have hnone := List.all_eq_true.mp h o o.mem_all
  rw [given?, Option.isNone_iff_eq_none.mp hnone]
  rfl

end Override

theorem Params.overlay_accepted (p : Params) (env : Environment)
    (h : Override.isRefused env = false) :
    ∃ q, p.overlay env = .ok (if Override.isSilent env then none else some q) ∧
      ∀ o : Override, o.field q = (o.given? env).getD (o.field p) := by
  have hgood : ∀ o ∈ Override.all, o.isBad env = false := by
    simpa [Override.isRefused] using h
  obtain ⟨q, hread, hfields⟩ := Override.read_fields env hgood p
  refine ⟨q, ?_, fun o => by rw [hfields o, if_pos o.mem_all]⟩
  have hany : (Override.all.any fun o => (o.present? env).isSome) = !Override.isSilent env := by
    simp [Override.isSilent, List.not_all_eq_any_not]
  simp only [overlay, hread, Except.map, hany]
  cases Override.isSilent env <;> rfl

namespace Engine

variable (e : Engine) (env : Environment)

theorem overlay_refused (h : Override.isRefused env = true) :
    ∃ o : Override, ∃ value cause, o.present? env = some value ∧ o.parse value = .error cause ∧
      e.overlay env = (e, .error ⟨o.name, value, cause⟩) := by
  obtain ⟨o, -, value, cause, hpresent, hparse, hread⟩ :=
    Override.read_bad env (List.any_eq_true.mp h) e.active
  refine ⟨o, value, cause, hpresent, hparse, ?_⟩
  simp only [overlay, Params.overlay, hread, Except.map]

theorem overlay_fields (h : Override.isRefused env = false) :
    ∃ q, (e.overlay env =
        if Override.isSilent env then (e, .ok e.active) else (e.replace q, .ok q)) ∧
      ∀ o : Override, o.field q = (o.given? env).getD (o.field e.active) := by
  obtain ⟨q, hq, hfields⟩ := e.active.overlay_accepted env h
  refine ⟨q, ?_, hfields⟩
  rw [overlay, hq]
  cases Override.isSilent env <;> rfl

theorem field_overlay (o : Override) :
    o.field (e.overlay env).1.active =
      (if Override.isRefused env then none else o.given? env).getD (o.field e.active) := by
  cases hr : Override.isRefused env with
  | true =>
    obtain ⟨_, _, _, -, -, ho⟩ := overlay_refused e env hr
    rw [ho]
    rfl
  | false =>
    obtain ⟨q, ho, hfields⟩ := overlay_fields e env hr
    rw [ho]
    cases hs : Override.isSilent env with
    | true =>
      have hnone := o.given?_silent env hs
      simp [hnone]
    | false => simpa [replace] using hfields o

theorem replacements_overlay :
    (e.overlay env).1.replacements =
      e.replacements + if !Override.isRefused env && !Override.isSilent env then 1 else 0 := by
  cases hr : Override.isRefused env with
  | true =>
    obtain ⟨_, _, _, -, -, ho⟩ := overlay_refused e env hr
    rw [ho]
    rfl
  | false =>
    obtain ⟨q, ho, -⟩ := overlay_fields e env hr
    rw [ho]
    cases Override.isSilent env <;> rfl

/-! ## Any number of environments -/

def overlays (envs : List Environment) : Engine := envs.foldl (fun e env => (e.overlay env).1) e

theorem field_overlays (envs : List Environment) (o : Override) :
    o.field (e.overlays envs).active =
      ((envs.filter (!Override.isRefused ·)).filterMap fun env => o.given? env).getLast?.getD
        (o.field e.active) := by
  induction envs generalizing e with
  | nil => rfl
  | cons env envs ih =>
    change o.field ((e.overlay env).1.overlays envs).active = _
    rw [ih, field_overlay, List.filter_cons]
    cases hr : Override.isRefused env with
    | true => rfl
    | false =>
      cases hg : o.given? env with
      | none => simp [hg]
      | some v => simp [hg, List.getLast?_cons]

theorem replacements_overlays (envs : List Environment) :
    (e.overlays envs).replacements = e.replacements +
      envs.countP fun env => !Override.isRefused env && !Override.isSilent env := by
  induction envs generalizing e with
  | nil => rfl
  | cons env envs ih =>
    change ((e.overlay env).1.overlays envs).replacements = _
    rw [ih, replacements_overlay, List.countP_cons]
    omega

/-- A bad numeral leaves the engine as it was, and so does an environment with no variable
that is present; every other one replaces the record once. After any number of environments
each field is what the last accepted one with its variable said, or as it was at first. -/
theorem overlays_last_given (envs : List Environment) :
    (∀ (e : Engine) (env : Environment),
      if Override.isRefused env then
        ∃ o : Override, ∃ value cause, o.present? env = some value ∧
          o.parse value = .error cause ∧ e.overlay env = (e, .error ⟨o.name, value, cause⟩)
      else if Override.isSilent env then e.overlay env = (e, .ok e.active)
      else ∃ q, e.overlay env = (⟨q, e.replacements + 1⟩, .ok q) ∧
        ∀ o : Override, o.field q = (o.given? env).getD (o.field e.active)) ∧
    (∀ o : Override, o.field (e.overlays envs).active =
      ((envs.filter (!Override.isRefused ·)).filterMap fun env => o.given? env).getLast?.getD
        (o.field e.active)) ∧
    (e.overlays envs).replacements = e.replacements +
      envs.countP fun env => !Override.isRefused env && !Override.isSilent env := by
  refine ⟨fun e env => ?_, field_overlays e envs, replacements_overlays e envs⟩
  cases hr : Override.isRefused env with
  | true => exact overlay_refused e env hr
  | false =>
    obtain ⟨q, ho, hfields⟩ := overlay_fields e env hr
    cases hs : Override.isSilent env with
    | true => simpa [hs] using ho
    | false => exact ⟨q, by simpa [hs, replace] using ho, hfields⟩

/-- A refused environment between two accepted ones takes no part. -/
example :
    overlays ⟨{}, 0⟩
      [fun name => if name = "LB_FLIGHT_INTERVAL_SECS" then some "7" else none,
        fun name => if name = "LB_FLIGHT_INTERVAL_SECS" then some "-1" else some "1",
        fun name => if name = "LB_TRANSMISSION_NSTART" then some "3" else none] =
      ⟨{ flightIntervalSecs := 7, transmissionNStart := 3 }, 2⟩ := by
  decide +kernel

end Engine

end MatrixGateway.Transport
