import MatrixGateway.Proofs.AcceptLoop

/-!
# The shutdown and the drain

Nothing is accepted once the loop has heard of the shutdown, every connection
that is served when the drain begins is told of it, and only the end of the
drain's time ends the service with a connection left.
-/

set_option autoImplicit false

namespace MatrixGateway.Service

variable {s s' : Service} {i : Nat}

/-! ## After the shutdown -/

theorem step_closed {op : Op} (hc : s.phase.isClosed = true) (hs : step op s = some s') :
    s'.phase.isClosed = true ∧ s'.tasks.length = s.tasks.length ∧
      s'.admission.accepted.map (·.1) = s.admission.accepted.map (·.1) := by
  have heffect := step_eq_some hs
  cases op with
  | pass | connect =>
    dsimp only at heffect
    subst heffect
    exact ⟨hc, rfl, rfl⟩
  | reserve | accept | acceptFails =>
    rw [heffect.1] at hc
    contradiction
  | wake =>
    obtain ⟨⟨wake, hp⟩, -⟩ := heffect
    rw [hp] at hc
    contradiction
  | finish task =>
    obtain ⟨t, -, -, rfl⟩ := finish?_eq_some heffect
    exact ⟨hc, List.length_set, rfl⟩
  | release task =>
    obtain ⟨t, -, -, rfl⟩ := release?_eq_some heffect
    exact ⟨hc, List.length_set, Admission.clients_release _ _⟩
  | hear notice =>
    obtain ⟨isReserved, hp, -⟩ := heffect
    rw [hp] at hc
    contradiction
  | beginDrain =>
    obtain ⟨-, rfl⟩ := heffect
    exact ⟨rfl, rfl, rfl⟩
  | look task =>
    obtain ⟨t, -, -, -, rfl⟩ := look?_eq_some heffect
    exact ⟨hc, List.length_set, rfl⟩
  | poll =>
    obtain ⟨since, next, -, hactive⟩ := heffect
    split at hactive <;> subst hactive <;> exact ⟨rfl, rfl, rfl⟩
  | giveUp =>
    obtain ⟨since, next, -, -, rfl⟩ := heffect
    exact ⟨rfl, rfl, rfl⟩

theorem run_closed (ops : List Op) (hc : s.phase.isClosed = true) (hr : run ops s = some s') :
    s'.tasks.length = s.tasks.length ∧
      s'.admission.accepted.map (·.1) = s.admission.accepted.map (·.1) := by
  have hkept := run_keeps (P := fun t => t.phase.isClosed = true ∧
    t.tasks.length = s.tasks.length ∧
    t.admission.accepted.map (·.1) = s.admission.accepted.map (·.1))
    (fun ⟨hclosed, htasks, haccepted⟩ hs =>
      let ⟨hclosed', htasks', haccepted'⟩ := step_closed hclosed hs
      ⟨hclosed', htasks'.trans htasks, haccepted'.trans haccepted⟩) ops ⟨hc, rfl, rfl⟩ hr
  exact hkept.2

/-! ## The end of the drain -/

/-- How a drain that began at a time stands: under way, over with nothing left, or over
because its time was. -/
def Drained (start : Nat) (s : Service) : Prop :=
  match s.phase with
  | .draining since _ => since = start
  | .stopped true => s.tracker.active = 0
  | .stopped false => start + drainTime ≤ s.clock
  | _ => False

namespace Drained

variable {start : Nat}

theorem drains (h : Drained start s) : s.phase.drains = 1 := by
  unfold Drained at h
  split at h
  · rename_i hp
    rw [hp]
    rfl
  · rename_i hp
    rw [hp]
    rfl
  · rename_i hp
    rw [hp]
    rfl
  · contradiction

theorem kept (h : Drained start s) (hp : s'.phase = s.phase)
    (ha : s.tracker.active = 0 → s'.tracker.active = 0) (hc : s.clock ≤ s'.clock) :
    Drained start s' := by
  unfold Drained at h ⊢
  rw [hp]
  split at h
  · exact h
  · exact ha h
  · exact Nat.le_trans h hc
  · contradiction

theorem step {op : Op} (h : Drained start s) (hs : step op s = some s') : Drained start s' := by
  have hdrains := h.drains
  have heffect := step_eq_some hs
  cases op with
  | pass millis =>
    dsimp only at heffect
    subst heffect
    exact h.kept rfl id (Nat.le_add_right _ _)
  | connect =>
    dsimp only at heffect
    subst heffect
    exact h.kept rfl id (Nat.le_refl _)
  | reserve | accept | acceptFails | beginDrain =>
    rw [heffect.1] at hdrains
    contradiction
  | wake =>
    obtain ⟨⟨wake, hp⟩, -⟩ := heffect
    rw [hp] at hdrains
    contradiction
  | finish task =>
    obtain ⟨t, -, -, rfl⟩ := finish?_eq_some heffect
    refine h.kept rfl (fun hactive => ?_) (Nat.le_refl _)
    unfold Connections.active at hactive
    simp [Connections.active, Connections.release, List.length_eq_zero_iff.mp hactive]
  | release task =>
    obtain ⟨t, -, -, rfl⟩ := release?_eq_some heffect
    exact h.kept rfl id (Nat.le_refl _)
  | hear notice =>
    obtain ⟨isReserved, hp, -⟩ := heffect
    rw [hp] at hdrains
    contradiction
  | look task =>
    obtain ⟨t, -, -, -, rfl⟩ := look?_eq_some heffect
    refine h.kept rfl (fun hactive => ?_) (Nat.le_refl _)
    rwa [Connections.active, Connections.live_poll]
  | poll =>
    obtain ⟨since, next, hp, hactive⟩ := heffect
    unfold Drained at h
    rw [hp] at h
    obtain rfl : since = start := h
    split at hactive <;> rename_i hcount <;> subst hactive
    · exact hcount
    · rfl
  | giveUp =>
    obtain ⟨since, next, hp, hlate, rfl⟩ := heffect
    unfold Drained at h
    rw [hp] at h
    obtain rfl : since = start := h
    exact hlate

theorem run (ops : List Op) (h : Drained start s) (hr : run ops s = some s') :
    Drained start s' :=
  run_keeps Drained.step ops h hr

end Drained

/-! ## Every reachable state -/

theorem Sound.told_of {limit : Nat} (h : Sound limit s) {t : Task} (hd : 0 < s.tracker.drains)
    (ht : s.tasks[i]? = some t) (hlive : t.isLive = true) :
    t.isTold = true ∨ s.hears t = true ∧ ∃ told, Service.step (.look i) s = some told ∧
      told.tasks[i]? = some { t with isTold := true } := by
  cases hnew : t.isTold with
  | true => exact Or.inl rfl
  | false =>
    have hstage : t.stage = .serving := of_decide_eq_true hlive
    have hbegun : s.phase.drains = 1 := by
      rw [h.drains] at hd
      cases hp : s.phase <;> simp_all [Phase.drains]
    have hhears := (h.hears_eq ht hnew).2.mpr hbegun
    have hlook : Service.step (.look i) s = some { s with
        tracker := (Connections.step (.poll t.receiver) s.tracker).1
        tasks := s.tasks.set i { t with isTold := s.hears t } } := by
      change s.look? i = _
      unfold look?
      simp only [ht]
      exact if_pos ⟨hstage, hnew⟩
    refine Or.inr ⟨hhears, _, hlook, ?_⟩
    obtain ⟨hi, -⟩ := List.getElem?_eq_some_iff.mp ht
    rw [hhears, List.getElem?_set_self hi]

/-- However the steps fall: guards and permits are those of the tasks, and there are never too
many; nothing is accepted once the shutdown was heard of; from the beginning of the drain on,
and never before, a connection that is served has been told of it or is as soon as it looks;
and a service that is over before the drain's time is has nothing left to serve. -/
theorem run_accounts {max : UInt64} {a : Admission} {ops : List Op} {s : Service}
    (ha : Admission.open? max = some a) (hr : run ops (opened a) = some s) :
    s.tracker.active = s.alive.length ∧
    s.tracker.active ≤ max.toNat ∧
    s.admission.held = s.tasks.countP (·.holdsPermit) ∧
    s.admission.available + s.held = max.toNat ∧
    (∀ notice s', step (.hear notice) s = some s' → ∀ later s'', run later s' = some s'' →
      s''.tasks.length = s.tasks.length ∧
        s''.admission.accepted.map (·.1) = s.admission.accepted.map (·.1)) ∧
    (∀ t ∈ s.tasks, t.isTold = true → 0 < s.tracker.drains) ∧
    ∀ s', step .beginDrain s = some s' → ∀ later s'', run later s' = some s'' →
      (∀ (i : Nat) (t : Task), s''.tasks[i]? = some t → t.isLive = true →
        t.isTold = true ∨ s''.hears t = true ∧ ∃ told, step (.look i) s'' = some told ∧
          told.tasks[i]? = some { t with isTold := true }) ∧
      ∀ isDrained, s''.phase = .stopped isDrained → s''.clock < s'.clock + drainTime →
        s''.tracker.active = 0 := by
  have hopen : a.accepted = [] ∧ a.available = max.toNat := by
    unfold Admission.open? at ha
    split at ha
    · obtain rfl := Option.some.inj ha
      exact ⟨rfl, rfl⟩
    · contradiction
  have hsound : Sound max.toNat s := hopen.2 ▸ (sound_opened hopen.1).run ops hr
  refine ⟨hsound.active_eq, hsound.active_le, hsound.admission_held, hsound.total, ?_, ?_, ?_⟩
  · intro notice s' hhear later s'' hlater
    obtain ⟨isReserved, -, rfl⟩ : ∃ isReserved, s.phase = .accepting isReserved ∧ s' = _ :=
      step_eq_some hhear
    obtain ⟨htasks, haccepted⟩ := run_closed later rfl hlater
    cases isReserved <;> exact ⟨htasks, haccepted⟩
  · intro t ht htold
    rw [hsound.drains, hsound.told t ht htold]
    exact Nat.one_pos
  · intro s' hbegin later s'' hlater
    have hsound'' : Sound max.toNat s'' := (hsound.step hbegin).run later hlater
    obtain ⟨-, rfl⟩ : s.phase = .closing ∧ s' = _ := step_eq_some hbegin
    have hdrained : Drained s.clock s'' := by
      refine Drained.run later ?_ hlater
      exact rfl
    refine ⟨fun i t ht hlive => hsound''.told_of ?_ ht hlive, fun isDrained hstopped hearly => ?_⟩
    · rw [hsound''.drains, hdrained.drains]
      exact Nat.one_pos
    · unfold Drained at hdrained
      rw [hstopped] at hdrained
      cases isDrained with
      | true => exact hdrained
      | false => exact absurd hearly (Nat.not_lt.mpr hdrained)

/-- With one permit a second client is left waiting, and the drain ends with the first. -/
theorem run_accounts_single_permit :
    let accepted : List Op := [.connect, .connect, .reserve, .accept, .hear (.lagged 1)]
    let drain : List Op := [.poll, .look 0, .finish 0, .pass 100, .poll]
    ∃ a s s' s'', Admission.open? 1 = some a ∧ run accepted (opened a) = some s ∧
      s.tracker.active = s.alive.length ∧ s.admission.available + s.held = 1 ∧
      step .beginDrain s = some s' ∧ run drain s' = some s'' ∧
      s''.phase = .stopped true ∧ s''.clock < s'.clock + drainTime ∧ s''.tracker.active = 0 := by
  intro accepted drain
  obtain ⟨a, ha⟩ : ∃ a, Admission.open? 1 = some a := ⟨_, rfl⟩
  obtain rfl : a = { available := 1 } := (Option.some.inj ha).symm
  obtain ⟨s, hr⟩ : ∃ s, run accepted (opened { available := 1 }) = some s := ⟨_, rfl⟩
  obtain ⟨hactive, -, -, htotal, -, -, hdrain⟩ := run_accounts ha hr
  obtain rfl := Option.some.inj hr
  exact ⟨_, _, _, _, ha, rfl, hactive, htotal, rfl, rfl, rfl, by decide,
    (hdrain _ rfl drain _ rfl).2 true rfl (by decide)⟩

end MatrixGateway.Service
