import Mathlib.Data.List.Basic
import MatrixGateway.Lifetime

/-!
# What becomes of a signal

The watcher triggers the shutdown once, and the main task subscribes to it
once; which comes first is left to the run. The accept loop finds the event
exactly if the subscription came first. In the other order the event is gone
and so is the watcher: nothing that happens later stops the loop.
-/

set_option autoImplicit false

namespace MatrixGateway.Lifetime

/-! ## What a step does -/

variable {l l' : Lifetime}

theorem step_eq_some {op : Op} (h : step op l = some l') :
    match op with
    | .spawn => l.watch = .absent ∧ l.stage = .preparing ∧
        l' = { l with watch := .spawned, stage := .prepared }
    | .install => l.watch = .spawned ∧ l' = { l with watch := .installed }
    | .signal => ((l.watch = .absent ∨ l.watch = .spawned) ∧ l' = { l with stage := .killed }) ∨
        (l.watch = .installed ∧ l' = { l with watch := .signalled }) ∨ l' = l
    | .trigger => l.watch = .signalled ∧ l' = { l with
        channel := { l.channel with triggered := l.channel.triggered + 1 }
        watch := .triggered }
    | .subscribe => l.stage = .prepared ∧ l' = { l with
        channel := { l.channel with cursors := l.channel.cursors ++ [l.channel.triggered] }
        stage := .subscribed l.channel.cursors.length }
    | .startMetrics isStarted => ∃ r, l.stage = .subscribed r ∧
        l' = { l with stage := if isStarted then .metered r else .failed }
    | .bind isBound => ∃ r, l.stage = .metered r ∧
        l' = { l with stage := if isBound then .bound r else .failed }
    | .enter => ∃ r, l.stage = .bound r ∧ l' = { l with stage := .accepting r }
    | .recv => ∃ r, l.stage = .accepting r ∧ l' = { l with
        channel := (Shutdown.step (.recv r) l.channel).1
        stage := if l.isPending r then .told else .accepting r } := by
  cases op with
  | spawn =>
    unfold step at h
    split at h <;> try contradiction
    rename_i hwatch hstage
    exact ⟨hwatch, hstage, (Option.some.inj h).symm⟩
  | install =>
    unfold step at h
    split at h <;> try contradiction
    rename_i hwatch
    split at h
    · exact ⟨hwatch, (Option.some.inj h).symm⟩
    · contradiction
  | signal =>
    unfold step at h
    split at h <;> try contradiction
    all_goals
      rename_i hwatch
      split at h
    · exact Or.inl ⟨Or.inl hwatch, (Option.some.inj h).symm⟩
    · contradiction
    · exact Or.inl ⟨Or.inr hwatch, (Option.some.inj h).symm⟩
    · contradiction
    · exact Or.inr (Or.inl ⟨hwatch, (Option.some.inj h).symm⟩)
    · contradiction
    · exact Or.inr (Or.inr (Option.some.inj h).symm)
    · contradiction
  | trigger =>
    unfold step at h
    split at h <;> try contradiction
    rename_i hwatch
    split at h
    · exact ⟨hwatch, (Option.some.inj h).symm⟩
    · contradiction
  | subscribe =>
    unfold step at h
    split at h <;> try contradiction
    rename_i hstage
    exact ⟨hstage, (Option.some.inj h).symm⟩
  | startMetrics isStarted =>
    unfold step at h
    split at h <;> try contradiction
    rename_i _ r hop hstage
    obtain rfl := Op.startMetrics.inj hop
    exact ⟨r, hstage, (Option.some.inj h).symm⟩
  | bind isBound =>
    unfold step at h
    split at h <;> try contradiction
    rename_i _ r hop hstage
    obtain rfl := Op.bind.inj hop
    exact ⟨r, hstage, (Option.some.inj h).symm⟩
  | enter =>
    unfold step at h
    split at h <;> try contradiction
    rename_i r _ hstage
    exact ⟨r, hstage, (Option.some.inj h).symm⟩
  | recv =>
    unfold step at h
    split at h <;> try contradiction
    rename_i r _ hstage
    exact ⟨r, hstage, (Option.some.inj h).symm⟩

/-! ## What the steps so far have left -/

def Stage.receiver? : Stage → Option Nat
  | subscribed r | metered r | bound r | accepting r => some r
  | _ => none

def Stage.isEarly : Stage → Bool
  | preparing | prepared => true
  | _ => false

/-- The steps done tell what is in the channel: nothing before the trigger, and one event
afterwards, which the main task is done with if it subscribed only then. -/
structure History (done : List Op) (l : Lifetime) : Prop where
  watch : l.watch = .triggered ↔ .trigger ∈ done
  triggered : l.channel.triggered = if l.watch = .triggered then 1 else 0
  early : l.stage.isEarly = true → .subscribe ∉ done ∧ l.channel.cursors = []
  place : ∀ r, l.stage.receiver? = some r → r = 0 ∧ .subscribe ∈ done ∧
    l.channel.cursors = [if [.subscribe, .trigger].Sublist done then 0 else l.channel.triggered]

theorem history_start : History [] {} where
  watch := by simp
  triggered := rfl
  early := by simp
  place := by simp [Stage.receiver?]

theorem ordered_concat {done : List Op} {op : Op} :
    [Op.subscribe, .trigger].Sublist (done ++ [op]) ↔
      [Op.subscribe, .trigger].Sublist done ∨ (op = .trigger ∧ .subscribe ∈ done) := by
  constructor
  · intro h
    obtain ⟨front, back, hparts, hfront, hback⟩ := List.sublist_append_iff.mp h
    obtain rfl | rfl := List.sublist_singleton.mp hback
    · rw [List.append_nil] at hparts
      exact Or.inl (hparts ▸ hfront)
    · have hparts : [Op.subscribe] ++ [Op.trigger] = front ++ [op] := hparts
      obtain ⟨rfl, hop⟩ := List.append_inj' hparts rfl
      exact Or.inr ⟨(List.cons.inj hop).1.symm, List.singleton_sublist.mp hfront⟩
  · rintro (h | ⟨rfl, h⟩)
    · exact h.trans (List.sublist_append_left done [op])
    · exact (List.singleton_sublist.mpr h).append (List.Sublist.refl [Op.trigger])

namespace History

variable {done : List Op}

theorem received (h : History done l) {r : Nat} (hstage : l.stage = .accepting r) :
    Shutdown.step (.recv r) l.channel =
      ({ l.channel with cursors := [l.channel.triggered] },
        .received (if [.subscribe, .trigger].Sublist done then .fired else .empty)) := by
  obtain ⟨rfl, -, hcursors⟩ := h.place r (by rw [hstage]; rfl)
  by_cases hordered : [Op.subscribe, .trigger].Sublist done
  · have htriggered : l.channel.triggered = 1 := by
      rw [h.triggered, if_pos (h.watch.mpr (hordered.subset (by simp)))]
    simp [Shutdown.step, Shutdown.receive, hcursors, hordered, htriggered]
  · simp [Shutdown.step, Shutdown.receive, hcursors, hordered]

theorem isPending_iff (h : History done l) {r : Nat} (hstage : l.stage = .accepting r) :
    l.isPending r = true ↔ [.subscribe, .trigger].Sublist done := by
  unfold isPending
  rw [h.received hstage]
  by_cases hordered : [Op.subscribe, .trigger].Sublist done <;> simp [hordered]

theorem recv_empty (h : History done l) {r : Nat} (hstage : l.stage = .accepting r)
    (hordered : ¬ [Op.subscribe, .trigger].Sublist done) :
    (Shutdown.step (.recv r) l.channel).1 = l.channel := by
  obtain ⟨-, -, hcursors⟩ := h.place r (by rw [hstage]; rfl)
  rw [if_neg hordered] at hcursors
  rw [h.received hstage, ← hcursors]

theorem other (h : History done l) {op : Op} (hsubscribe : op ≠ .subscribe)
    (htrigger : op ≠ .trigger) (hchannel : l'.channel = l.channel)
    (hwatch : l'.watch = .triggered ↔ l.watch = .triggered)
    (hearly : l'.stage.isEarly = true → l.stage.isEarly = true)
    (hplace : ∀ r, l'.stage.receiver? = some r → l.stage.receiver? = some r) :
    History (done ++ [op]) l' where
  watch := by
    rw [hwatch, h.watch]
    simp [htrigger.symm]
  triggered := by
    rw [hchannel, h.triggered]
    simp [hwatch]
  early := by
    intro he
    rw [hchannel]
    simpa [hsubscribe.symm] using h.early (hearly he)
  place := by
    intro r hr
    rw [hchannel]
    simpa [ordered_concat, htrigger, hsubscribe.symm] using h.place r (hplace r hr)

theorem step {op : Op} (h : History done l) (hs : step op l = some l') :
    History (done ++ [op]) l' := by
  have heffect := step_eq_some hs
  cases op with
  | spawn =>
    obtain ⟨hwatch, hstage, rfl⟩ := heffect
    exact h.other (by decide) (by decide) rfl (by simp [hwatch]) (by simp [hstage, Stage.isEarly])
      (by simp [Stage.receiver?])
  | install =>
    obtain ⟨hwatch, rfl⟩ := heffect
    exact h.other (by decide) (by decide) rfl (by simp [hwatch]) id fun _ => id
  | signal =>
    obtain ⟨-, rfl⟩ | ⟨hwatch, rfl⟩ | rfl := heffect
    · exact h.other (by decide) (by decide) rfl Iff.rfl (by simp [Stage.isEarly])
        (by simp [Stage.receiver?])
    · exact h.other (by decide) (by decide) rfl (by simp [hwatch]) id fun _ => id
    · exact h.other (by decide) (by decide) rfl Iff.rfl id fun _ => id
  | trigger =>
    obtain ⟨hwatch, rfl⟩ := heffect
    have hzero : l.channel.triggered = 0 := by
      rw [h.triggered, hwatch]
      rfl
    -- A receiver that is there by now has seen nothing, and the event is the first.
    exact {
      watch := by simp
      triggered := by simp [hzero]
      early := by simpa using h.early
      place := by
        intro r hr
        obtain ⟨hr0, hsubscribe, hcursors⟩ := h.place r hr
        refine ⟨hr0, by simp [hsubscribe], ?_⟩
        rw [if_pos (ordered_concat.mpr (Or.inr ⟨rfl, hsubscribe⟩))]
        simpa [hzero] using hcursors }
  | subscribe =>
    obtain ⟨hstage, rfl⟩ := heffect
    obtain ⟨hnew, hcursors⟩ := h.early (by rw [hstage]; rfl)
    -- There was no subscription before this one, so whatever was triggered is behind it.
    have hunordered : ¬ [Op.subscribe, .trigger].Sublist (done ++ [.subscribe]) := by
      rw [ordered_concat]
      rintro (hordered | ⟨hop, -⟩)
      · exact hnew (hordered.subset (by simp))
      · contradiction
    exact {
      watch := by simpa using h.watch
      triggered := h.triggered
      early := by simp [Stage.isEarly]
      place := by
        intro r hr
        obtain rfl : r = 0 := by simpa [Stage.receiver?, hcursors] using hr.symm
        simp [hcursors, hunordered] }
  | startMetrics isStarted =>
    obtain ⟨r, hstage, rfl⟩ := heffect
    cases isStarted <;>
      exact h.other (by simp) (by simp) rfl Iff.rfl (by simp [Stage.isEarly])
        (by simp [hstage, Stage.receiver?])
  | bind isBound =>
    obtain ⟨r, hstage, rfl⟩ := heffect
    cases isBound <;>
      exact h.other (by simp) (by simp) rfl Iff.rfl (by simp [Stage.isEarly])
        (by simp [hstage, Stage.receiver?])
  | enter =>
    obtain ⟨r, hstage, rfl⟩ := heffect
    exact h.other (by decide) (by decide) rfl Iff.rfl (by simp [Stage.isEarly])
      (by simp [hstage, Stage.receiver?])
  | recv =>
    obtain ⟨r, hstage, rfl⟩ := heffect
    -- With the event the main task gives up its place, and without it nothing changes.
    by_cases hordered : [Op.subscribe, .trigger].Sublist done
    · rw [(h.isPending_iff hstage).mpr hordered, h.received hstage]
      exact {
        watch := by simpa using h.watch
        triggered := h.triggered
        early := by simp [Stage.isEarly]
        place := by simp [Stage.receiver?] }
    · rw [Bool.eq_false_iff.mpr (mt (h.isPending_iff hstage).mp hordered),
        h.recv_empty hstage hordered]
      exact h.other (by decide) (by decide) rfl Iff.rfl (by simp [Stage.isEarly])
        (by simp [hstage, Stage.receiver?])

theorem run {ops : List Op} (h : History done l) (hr : run ops l = some l') :
    History (done ++ ops) l' := by
  induction ops generalizing done l with
  | nil =>
    obtain rfl := Option.some.inj hr
    simpa using h
  | cons op ops ih =>
    obtain ⟨next, hs, hrest⟩ := Option.bind_eq_some_iff.mp hr
    simpa using ih (h.step hs) hrest

end History

/-! ## A receiver that missed the event -/

/-- Once the watcher is through and the accept loop finds nothing, no step changes anything:
a further signal is caught and dropped. -/
theorem run_deaf {r : Nat} {ops : List Op} (hwatch : l.watch = .triggered)
    (hstage : l.stage = .accepting r) (hpending : l.isPending r = false)
    (hchannel : (Shutdown.step (.recv r) l.channel).1 = l.channel)
    (hr : run ops l = some l') : l' = l := by
  induction ops with
  | nil => exact (Option.some.inj hr).symm
  | cons op ops ih =>
    obtain ⟨next, hs, hrest⟩ := Option.bind_eq_some_iff.mp hr
    obtain rfl : next = l := by
      have heffect := step_eq_some hs
      cases op with
      | signal =>
        obtain ⟨hearly, -⟩ | ⟨hinstalled, -⟩ | rfl := heffect
        · simp [hwatch] at hearly
        · simp [hwatch] at hinstalled
        · rfl
      | recv =>
        obtain ⟨r', hstage', rfl⟩ := heffect
        obtain rfl : r' = r := by simpa [hstage] using hstage'.symm
        rw [hpending, hchannel]
        simp [← hstage]
      | _ => simp [hwatch, hstage] at heffect
    exact ih hrest

/-- The accept loop of a run finds the event exactly if the main task subscribed before the
watcher triggered; its next question is answered so, and ends the loop or leaves it as it was.
If the event came first, nothing that can happen later changes anything any more. -/
theorem accepting_pending_iff {ops : List Op} {r : Nat} (hr : run ops {} = some l)
    (hstage : l.stage = .accepting r) :
    (l.watch = .triggered ↔ .trigger ∈ ops) ∧
    (l.isPending r = true ↔ [.subscribe, .trigger].Sublist ops) ∧
    (Shutdown.step (.recv r) l.channel).2 =
      .received (if [.subscribe, .trigger].Sublist ops then .fired else .empty) ∧
    (step .recv l).map Lifetime.stage =
      some (if [.subscribe, .trigger].Sublist ops then .told else .accepting r) ∧
    (.trigger ∈ ops → ¬ [.subscribe, .trigger].Sublist ops →
      ∀ later l', run later l = some l' → l' = l) := by
  have h : History ops l := by simpa using history_start.run hr
  have hpending := h.isPending_iff hstage
  refine ⟨h.watch, hpending, by rw [h.received hstage], ?_, ?_⟩
  · by_cases hordered : [Op.subscribe, .trigger].Sublist ops
    · simp [step, hstage, hpending.mpr hordered, hordered]
    · simp [step, hstage, Bool.eq_false_iff.mpr (mt hpending.mp hordered), hordered]
  · intro htrigger hordered later l' hlater
    exact run_deaf (h.watch.mpr htrigger) hstage (Bool.eq_false_iff.mpr (mt hpending.mp hordered))
      (h.recv_empty hstage hordered) hlater

theorem accepting_pending_during_start :
    run [.spawn, .install, .subscribe, .signal, .startMetrics true, .trigger, .bind true, .enter]
        {} = some ⟨⟨1, [0]⟩, .triggered, .accepting 0⟩ ∧
    (⟨⟨1, [0]⟩, .triggered, .accepting 0⟩ : Lifetime).isPending 0 = true :=
  have hrun : run [.spawn, .install, .subscribe, .signal, .startMetrics true, .trigger,
      .bind true, .enter] {} = some ⟨⟨1, [0]⟩, .triggered, .accepting 0⟩ := by decide
  ⟨hrun, (accepting_pending_iff hrun rfl).2.1.mpr (by decide)⟩

/-- A signal that is through before the main task subscribes is lost: the accept loop runs, the
event was triggered, and its receiver finds nothing. -/
theorem not_forall_triggered_pending :
    ¬ ∀ (ops : List Op) (l : Lifetime) (r : Nat), run ops {} = some l → l.watch = .triggered →
      l.stage = .accepting r → l.isPending r = true := by
  intro h
  have hlost := h [.spawn, .install, .signal, .trigger, .subscribe, .startMetrics true,
    .bind true, .enter] ⟨⟨1, [1]⟩, .triggered, .accepting 0⟩ 0 (by decide) rfl rfl
  exact absurd hlost (by decide)

end MatrixGateway.Lifetime
