import MatrixGateway.Net.Service

/-!
# The accounts of the accept loop

However the steps of the loop, the tasks and the drain fall, the guards
counted are those of the connections still served, and every permit is free,
reserved for the next client or held by a task. One lemma tells what each
step does and when it is possible; the account is kept step by step.
-/

set_option autoImplicit false

namespace MatrixGateway

theorem map_set_self {α β : Type} {l : List α} {i : Nat} {a b : α} {f : α → β}
    (ha : l[i]? = some a) (hf : f b = f a) : (l.set i b).map f = l.map f := by
  obtain ⟨hi, rfl⟩ := List.getElem?_eq_some_iff.mp ha
  rw [List.map_set, hf, ← List.getElem_map f (h := by simpa using hi), List.set_getElem_self]

namespace Admission

/-! ## An accept in two steps -/

variable (a : Admission)

/-- An accept that does not wait takes a permit and a client, or gives the permit back. -/
theorem step_accept :
    step .accept a =
      match a.reserve? with
      | none => (a, .accepted none)
      | some reserved =>
        match reserved.take? with
        | none => (reserved.giveBack, .accepted none)
        | some taken => (taken, .accepted a.waiting.head?) := by
  obtain ⟨available, waiting, connected, accepted⟩ := a
  cases available with
  | zero => rfl
  | succ free =>
    cases waiting with
    | nil => rfl
    | cons client rest => rfl

variable {a}

theorem reserve?_eq_some {b : Admission} (h : a.reserve? = some b) :
    b.accepted = a.accepted ∧ b.available + 1 = a.available := by
  unfold reserve? at h
  split at h
  · rename_i free hfree
    obtain rfl := Option.some.inj h
    exact ⟨rfl, hfree.symm⟩
  · contradiction

theorem take?_eq_some {b : Admission} (h : a.take? = some b) :
    b.available = a.available ∧ ∃ client, b.accepted = a.accepted ++ [(client, true)] := by
  unfold take? at h
  split at h
  · rename_i client rest _
    obtain rfl := Option.some.inj h
    exact ⟨rfl, client, rfl⟩
  · contradiction

@[simp] theorem giveBack_available : a.giveBack.available = a.available + 1 := rfl

theorem step_release {i client : Nat} (h : a.accepted[i]? = some (client, true)) :
    (step (.release i) a).1 =
      { a with available := a.available + 1, accepted := a.accepted.set i (client, false) } := by
  simp only [step, h]

theorem held_release {i client : Nat} (h : a.accepted[i]? = some (client, true)) :
    (step (.release i) a).1.held + 1 = a.held := by
  obtain ⟨hi, hentry⟩ := List.getElem?_eq_some_iff.mp h
  have hpos : 0 < a.accepted.countP (·.2) :=
    List.countP_pos_iff.mpr ⟨(client, true), List.mem_of_getElem? h, rfl⟩
  rw [step_release h]
  simp only [held]
  rw [List.countP_set hi, hentry]
  simp
  omega

theorem clients_release (a : Admission) (i : Nat) :
    (step (.release i) a).1.accepted.map (·.1) = a.accepted.map (·.1) := by
  unfold step
  dsimp only
  split
  · rename_i client hentry
    exact map_set_self hentry rfl
  · rfl

end Admission

theorem Connections.live_poll (c : Connections) (i : Nat) : (step (.poll i) c).1.live = c.live := by
  unfold step
  dsimp only
  split <;> rfl

namespace Service

/-! ## What the steps of a task do -/

variable {s s' : Service} {i : Nat}

theorem take?_eq_some (h : s.take? = some s') : ∃ admission client,
    admission.available = s.admission.available ∧
    admission.accepted = s.admission.accepted ++ [(client, true)] ∧
    s' = { s with
      admission
      tracker := { s.tracker with
        opened := s.tracker.opened + 1
        live := s.tracker.live ++ [s.tracker.opened]
        seen := s.tracker.seen ++ [0] }
      tasks := s.tasks ++
        [⟨s.admission.accepted.length, s.tracker.opened, s.tracker.seen.length, .serving, false⟩]
      phase := .accepting false } := by
  obtain ⟨admission, htake, rfl⟩ := Option.map_eq_some_iff.mp h
  obtain ⟨havailable, client, haccepted⟩ := Admission.take?_eq_some htake
  exact ⟨admission, client, havailable, haccepted, rfl⟩

theorem finish?_eq_some (h : s.finish? i = some s') : ∃ t, s.tasks[i]? = some t ∧
    t.stage = .serving ∧ s' = { s with
      tracker := s.tracker.release t.guard
      tasks := s.tasks.set i { t with stage := .served } } := by
  unfold finish? at h
  split at h
  · rename_i t ht
    split at h
    · rename_i hstage
      exact ⟨t, ht, hstage, (Option.some.inj h).symm⟩
    · contradiction
  · contradiction

theorem release?_eq_some (h : s.release? i = some s') : ∃ t, s.tasks[i]? = some t ∧
    t.stage = .served ∧ s' = { s with
      admission := (Admission.step (.release t.permit) s.admission).1
      tasks := s.tasks.set i { t with stage := .gone } } := by
  unfold release? at h
  split at h
  · rename_i t ht
    split at h
    · rename_i hstage
      exact ⟨t, ht, hstage, (Option.some.inj h).symm⟩
    · contradiction
  · contradiction

theorem look?_eq_some (h : s.look? i = some s') : ∃ t, s.tasks[i]? = some t ∧
    t.stage = .serving ∧ t.isTold = false ∧ s' = { s with
      tracker := (Connections.step (.poll t.receiver) s.tracker).1
      tasks := s.tasks.set i { t with isTold := s.hears t } } := by
  unfold look? at h
  split at h
  · rename_i t ht
    split at h
    · rename_i hstage
      exact ⟨t, ht, hstage.1, hstage.2, (Option.some.inj h).symm⟩
    · contradiction
  · contradiction

/-! ## What ties the counters together -/

def Phase.drains : Phase → Nat
  | accepting _ | resting _ | closing => 0
  | draining .. | stopped _ => 1

def Task.seen (t : Task) : Nat := if t.isTold then 1 else 0

/-- The tasks account for all that the semaphore and the tracker know: what a task holds is
found under the task's own number. -/
structure Sound (limit : Nat) (s : Service) : Prop where
  places : ∀ (i : Nat) (t : Task), s.tasks[i]? = some t →
    t.permit = i ∧ t.guard = i ∧ t.receiver = i
  opened : s.tracker.opened = s.tasks.length
  live : s.tracker.live = s.alive.map (·.guard)
  permits : s.admission.accepted.map (·.2) = s.tasks.map (·.holdsPermit)
  seen : s.tracker.seen = s.tasks.map Task.seen
  drains : s.tracker.drains = s.phase.drains
  told : ∀ t ∈ s.tasks, t.isTold = true → s.phase.drains = 1
  total : s.admission.available + s.held = limit

theorem sound_opened {a : Admission} (h : a.accepted = []) : Sound a.available (opened a) where
  places := by simp [opened]
  opened := rfl
  live := rfl
  permits := by simp [opened, h]
  seen := rfl
  drains := rfl
  told := by simp [opened]
  total := by simp [opened, held, Admission.held, h]

namespace Sound

variable {limit : Nat}

theorem admission_held (h : Sound limit s) :
    s.admission.held = s.tasks.countP (·.holdsPermit) := by
  have hcount := congrArg (List.countP id) h.permits
  rwa [List.countP_map, List.countP_map] at hcount

theorem active_eq (h : Sound limit s) : s.tracker.active = s.alive.length := by
  rw [Connections.active, h.live, List.length_map]

theorem active_le (h : Sound limit s) : s.tracker.active ≤ limit := by
  have hle : s.alive.length ≤ s.admission.held := by
    rw [h.admission_held, alive, ← List.countP_eq_length_filter]
    apply List.countP_mono_left
    intro t _ ht
    simp only [Task.isLive, decide_eq_true_eq] at ht
    simp [Task.holdsPermit, ht]
  have htotal := h.total
  unfold held at htotal
  rw [h.active_eq]
  omega

theorem length_accepted (h : Sound limit s) : s.admission.accepted.length = s.tasks.length := by
  simpa using congrArg List.length h.permits

theorem length_seen (h : Sound limit s) : s.tracker.seen.length = s.tasks.length := by
  simpa using congrArg List.length h.seen

theorem guards_nodup (h : Sound limit s) : (s.tasks.map (·.guard)).Nodup := by
  have hrange : s.tasks.map (·.guard) = List.range s.tasks.length := by
    apply List.ext_getElem?
    intro i
    rw [List.getElem?_map]
    cases ht : s.tasks[i]? with
    | none =>
      have hlen := List.getElem?_eq_none_iff.mp ht
      rw [Option.map_none, eq_comm, List.getElem?_eq_none_iff, List.length_range]
      exact hlen
    | some t =>
      obtain ⟨hi, -⟩ := List.getElem?_eq_some_iff.mp ht
      rw [Option.map_some, (h.places i t ht).2.1, List.getElem?_range hi]
  rw [hrange]
  exact List.nodup_range

end Sound

/-! ## Changed tasks -/

section Changed

variable {t t' : Task}

theorem alive_set {tasks : List Task} {i : Nat} (ht : tasks[i]? = some t)
    (hguards : (tasks.map (·.guard)).Nodup) (hover : t'.isLive = false) :
    ((tasks.set i t').filter (·.isLive)).map (·.guard) =
      ((tasks.filter (·.isLive)).map (·.guard)).filter (· ≠ t.guard) := by
  -- The guards are distinct, so the filter finds the task's own one and passes the others.
  induction tasks generalizing i with
  | nil => contradiction
  | cons u rest ih =>
    rw [List.map_cons, List.nodup_cons] at hguards
    cases i with
    | zero =>
      obtain rfl : u = t := by simpa using ht
      have hrest : ((rest.filter (·.isLive)).map (·.guard)).filter (· ≠ u.guard) =
          (rest.filter (·.isLive)).map (·.guard) := by
        rw [List.filter_eq_self]
        intro g hg
        obtain ⟨v, hv, rfl⟩ := List.mem_map.mp hg
        have hne : v.guard ≠ u.guard := fun heq =>
          hguards.1 (heq ▸ List.mem_map_of_mem (List.mem_filter.mp hv).1)
        simpa using hne
      rw [List.set_cons_zero, List.filter_cons_of_neg (by simp [hover]), ← hrest]
      cases hu : u.isLive <;> simp [hu]
    | succ i =>
      have hrest := ih (by simpa using ht) hguards.2
      have hne : u.guard ≠ t.guard := by
        intro heq
        have hmem : t ∈ rest := List.mem_of_getElem? (by simpa using ht)
        exact hguards.1 (heq ▸ List.mem_map_of_mem hmem)
      cases hu : u.isLive <;> simp [hu, hne, hrest]

theorem alive_set_self {tasks : List Task} {i : Nat} (ht : tasks[i]? = some t)
    (hlive : t'.isLive = t.isLive) (hguard : t'.guard = t.guard) :
    ((tasks.set i t').filter (·.isLive)).map (·.guard) =
      (tasks.filter (·.isLive)).map (·.guard) := by
  have hpairs : ∀ l : List Task, (l.filter (·.isLive)).map (·.guard) =
      ((l.map fun u => (u.isLive, u.guard)).filter (·.1)).map (·.2) := by
    intro l
    rw [List.filter_map, List.map_map]
    rfl
  rw [hpairs, hpairs, map_set_self ht (by rw [hlive, hguard])]

namespace Sound

variable {limit : Nat}

theorem places_set (h : Sound limit s) (ht : s.tasks[i]? = some t)
    (hp : t'.permit = t.permit ∧ t'.guard = t.guard ∧ t'.receiver = t.receiver) (j : Nat) (u : Task)
    (hu : (s.tasks.set i t')[j]? = some u) : u.permit = j ∧ u.guard = j ∧ u.receiver = j := by
  rw [List.getElem?_set] at hu
  by_cases hij : i = j
  · subst hij
    obtain ⟨hi, -⟩ := List.getElem?_eq_some_iff.mp ht
    simp only [hi, if_true, Option.some.injEq] at hu
    subst hu
    rw [hp.1, hp.2.1, hp.2.2]
    exact h.places i t ht
  · rw [if_neg hij] at hu
    exact h.places j u hu

theorem told_set (h : Sound limit s) (ht' : t'.isTold = true → s.phase.drains = 1) :
    ∀ u ∈ s.tasks.set i t', u.isTold = true → s.phase.drains = 1 := by
  intro u hu htold
  rcases List.mem_or_eq_of_mem_set hu with hmem | rfl
  · exact h.told u hmem htold
  · exact ht' htold

theorem hears_eq (h : Sound limit s) (ht : s.tasks[i]? = some t) (hnew : t.isTold = false) :
    s.tracker.seen[t.receiver]? = some 0 ∧ (s.hears t = true ↔ s.phase.drains = 1) := by
  have hseen : s.tracker.seen[t.receiver]? = some 0 := by
    rw [(h.places i t ht).2.2, h.seen, List.getElem?_map, ht]
    simp [Task.seen, hnew]
  refine ⟨hseen, ?_⟩
  unfold hears
  simp only [Connections.step, hseen, h.drains]
  cases hp : s.phase <;> simp [Phase.drains]

end Sound

end Changed

/-! ## The steps -/

namespace Sound

variable {limit : Nat}

theorem take (h : Sound limit s) (hp : s.phase = .accepting true) (hs : s.take? = some s') :
    Sound limit s' := by
  obtain ⟨admission, client, havailable, haccepted, rfl⟩ := take?_eq_some hs
  exact {
    places := by
      intro i t ht
      rw [List.getElem?_append] at ht
      split at ht
      · exact h.places i t ht
      · rename_i hlt
        rw [List.getElem?_singleton] at ht
        split at ht
        · obtain rfl : i = s.tasks.length := by omega
          obtain rfl := Option.some.inj ht
          exact ⟨h.length_accepted, h.opened, h.length_seen⟩
        · contradiction
    opened := by simp [h.opened]
    live := by simp [h.live, alive, Task.isLive]
    permits := by simp [haccepted, h.permits, Task.holdsPermit]
    seen := by simp [h.seen, Task.seen]
    drains := by simpa [hp, Phase.drains] using h.drains
    told := by
      intro t ht htold
      rcases List.mem_append.mp ht with ht | ht
      · simpa [hp, Phase.drains] using h.told t ht htold
      · rw [List.mem_singleton.mp ht] at htold
        contradiction
    total := by
      have htotal := h.total
      simp only [held, hp, if_true, Admission.held, haccepted, havailable] at htotal ⊢
      simp
      omega }

theorem finish (h : Sound limit s) (hs : s.finish? i = some s') : Sound limit s' := by
  obtain ⟨t, ht, hstage, rfl⟩ := finish?_eq_some hs
  exact {
    places := h.places_set ht ⟨rfl, rfl, rfl⟩
    opened := by simpa [Connections.release] using h.opened
    live := by
      rw [alive, alive_set ht h.guards_nodup rfl, Connections.release, h.live]
      rfl
    permits := by
      rw [map_set_self ht (by simp [Task.holdsPermit, hstage])]
      exact h.permits
    seen := by
      rw [map_set_self ht (by rfl)]
      exact h.seen
    drains := h.drains
    told := h.told_set (h.told t (List.mem_of_getElem? ht))
    total := h.total }

theorem release (h : Sound limit s) (hs : s.release? i = some s') : Sound limit s' := by
  obtain ⟨t, ht, hstage, rfl⟩ := release?_eq_some hs
  have hpermit := (h.places i t ht).1
  -- The entry of the task's own permit is one that is held, since the task holds it.
  obtain ⟨client, hentry⟩ : ∃ client, s.admission.accepted[t.permit]? = some (client, true) := by
    have hi := congrArg (·[i]?) h.permits
    simp only [List.getElem?_map, ht, Option.map_some, Task.holdsPermit, hstage] at hi
    obtain ⟨⟨client, isHeld⟩, hentry, hheld⟩ := Option.map_eq_some_iff.mp hi
    obtain rfl : isHeld = true := by simpa using hheld
    exact ⟨client, hpermit ▸ hentry⟩
  have hheld := Admission.held_release hentry
  exact {
    places := h.places_set ht ⟨rfl, rfl, rfl⟩
    opened := by simpa using h.opened
    live := by
      rw [alive, alive_set_self ht (by simp [Task.isLive, hstage]) (by rfl)]
      exact h.live
    permits := by
      rw [Admission.step_release hentry, List.map_set, List.map_set, h.permits, hpermit]
      rfl
    seen := by
      rw [map_set_self ht (by rfl)]
      exact h.seen
    drains := h.drains
    told := h.told_set (h.told t (List.mem_of_getElem? ht))
    total := by
      have htotal := h.total
      have havailable : (Admission.step (.release t.permit) s.admission).1.available =
          s.admission.available + 1 := by
        rw [Admission.step_release hentry]
      simp only [held] at htotal ⊢
      omega }

theorem look (h : Sound limit s) (hs : s.look? i = some s') : Sound limit s' := by
  obtain ⟨t, ht, hstage, hnew, rfl⟩ := look?_eq_some hs
  obtain ⟨hseen, hhears⟩ := h.hears_eq ht hnew
  have htracker : (Connections.step (.poll t.receiver) s.tracker).1 =
      { s.tracker with seen := s.tracker.seen.set t.receiver s.tracker.drains } := by
    simp only [Connections.step, hseen]
  rw [htracker]
  exact {
    places := h.places_set ht ⟨rfl, rfl, rfl⟩
    opened := by simpa using h.opened
    live := by
      rw [alive, alive_set_self ht (by rfl) (by rfl)]
      exact h.live
    permits := by
      rw [map_set_self ht (by rfl)]
      exact h.permits
    seen := by
      rw [List.map_set, h.seen, (h.places i t ht).2.2, h.drains]
      have hdrains : s.phase.drains = 0 ∨ s.phase.drains = 1 := by
        cases s.phase <;> simp [Phase.drains]
      unfold Task.seen
      rcases hdrains with hd | hd <;> simp [hhears, hd]
    drains := h.drains
    told := h.told_set hhears.mp
    total := h.total }

end Sound

theorem step_eq_some {op : Op} (h : step op s = some s') :
    match op with
    | .pass millis => s' = { s with clock := s.clock + millis }
    | .connect => s' = { s with admission := (Admission.step .connect s.admission).1 }
    | .reserve => s.phase = .accepting false ∧ ∃ admission, s.admission.reserve? = some admission ∧
        s' = { s with admission, phase := .accepting true }
    | .accept => s.phase = .accepting true ∧ s.take? = some s'
    | .acceptFails => s.phase = .accepting true ∧ s' = { s with
        admission := s.admission.giveBack, phase := .resting (s.clock + restTime) }
    | .wake => (∃ wake, s.phase = .resting wake) ∧ s' = { s with phase := .accepting false }
    | .finish i => s.finish? i = some s'
    | .release i => s.release? i = some s'
    | .hear _ => ∃ isReserved, s.phase = .accepting isReserved ∧ s' = { s with
        admission := if isReserved then s.admission.giveBack else s.admission
        phase := .closing }
    | .beginDrain => s.phase = .closing ∧ s' = { s with
        tracker := { s.tracker with drains := s.tracker.drains + 1 }
        phase := .draining s.clock s.clock }
    | .look i => s.look? i = some s'
    | .poll => ∃ since next, s.phase = .draining since next ∧
        if s.tracker.active = 0 then s' = { s with phase := .stopped true }
        else s' = { s with phase := .draining since (s.clock + Connections.period) }
    | .giveUp => ∃ since next, s.phase = .draining since next ∧ since + drainTime ≤ s.clock ∧
        s' = { s with phase := .stopped false } := by
  cases op with
  | pass millis => exact (Option.some.inj h).symm
  | connect => exact (Option.some.inj h).symm
  | finish i => exact h
  | release i => exact h
  | look i => exact h
  | reserve =>
    unfold step at h
    split at h <;> try contradiction
    rename_i hp
    obtain ⟨admission, hreserve, rfl⟩ := Option.map_eq_some_iff.mp h
    exact ⟨hp, admission, hreserve, rfl⟩
  | accept =>
    unfold step at h
    split at h <;> try contradiction
    rename_i hp
    exact ⟨hp, h⟩
  | acceptFails =>
    unfold step at h
    split at h <;> try contradiction
    rename_i hp
    exact ⟨hp, (Option.some.inj h).symm⟩
  | wake =>
    unfold step at h
    split at h <;> try contradiction
    rename_i wake _ hp
    split at h
    · exact ⟨⟨wake, hp⟩, (Option.some.inj h).symm⟩
    · contradiction
  | hear notice =>
    unfold step at h
    split at h <;> try contradiction
    rename_i isReserved _ hp
    exact ⟨isReserved, hp, (Option.some.inj h).symm⟩
  | beginDrain =>
    unfold step at h
    split at h <;> try contradiction
    rename_i hp
    exact ⟨hp, (Option.some.inj h).symm⟩
  | poll =>
    unfold step at h
    split at h <;> try contradiction
    rename_i since next _ hp
    refine ⟨since, next, hp, ?_⟩
    split at h
    · obtain rfl := Option.some.inj h
      split <;> rfl
    · contradiction
  | giveUp =>
    unfold step at h
    split at h <;> try contradiction
    rename_i since next _ hp
    split at h
    · rename_i hlate
      exact ⟨since, next, hp, hlate, (Option.some.inj h).symm⟩
    · contradiction

theorem run_keeps {P : Service → Prop}
    (hstep : ∀ {op : Op} {s s' : Service}, P s → step op s = some s' → P s') (ops : List Op)
    (h : P s) (hr : run ops s = some s') : P s' := by
  induction ops generalizing s with
  | nil =>
    obtain rfl := Option.some.inj hr
    exact h
  | cons op ops ih =>
    obtain ⟨next, hs, hr⟩ := Option.bind_eq_some_iff.mp hr
    exact ih (hstep h hs) hr

namespace Sound

variable {limit : Nat}

/-- A step that touches neither tasks nor guards keeps the account if it moves permits only
between the free ones and the accept under way. -/
theorem moved (h : Sound limit s) {a : Admission} {p : Phase} (clock : Nat)
    (ha : a.accepted = s.admission.accepted) (hp : p.drains = s.phase.drains)
    (htotal : a.available + (if p = .accepting true then 1 else 0) =
      s.admission.available + if s.phase = .accepting true then 1 else 0) :
    Sound limit { s with admission := a, phase := p, clock } where
  places := h.places
  opened := h.opened
  live := h.live
  permits := by rw [ha]; exact h.permits
  seen := h.seen
  drains := h.drains.trans hp.symm
  told := by rw [hp]; exact h.told
  total := by
    have := h.total
    simp only [held, Admission.held, ha] at this ⊢
    omega

theorem step {op : Op} (h : Sound limit s) (hs : step op s = some s') : Sound limit s' := by
  have heffect := step_eq_some hs
  cases op with
  | pass | connect =>
    dsimp only at heffect
    subst heffect
    exact h.moved _ rfl rfl rfl
  | reserve =>
    obtain ⟨hp, admission, hreserve, rfl⟩ := heffect
    obtain ⟨haccepted, havailable⟩ := Admission.reserve?_eq_some hreserve
    exact h.moved _ haccepted (by rw [hp]; rfl) (by simp [hp, havailable])
  | accept =>
    obtain ⟨hp, htake⟩ := heffect
    exact h.take hp htake
  | acceptFails =>
    obtain ⟨hp, rfl⟩ := heffect
    exact h.moved _ rfl (by rw [hp]; rfl) (by simp [hp])
  | wake =>
    obtain ⟨⟨wake, hp⟩, rfl⟩ := heffect
    exact h.moved _ rfl (by rw [hp]; rfl) (by simp [hp])
  | finish i => exact h.finish heffect
  | release i => exact h.release heffect
  | hear notice =>
    obtain ⟨isReserved, hp, rfl⟩ := heffect
    cases isReserved with
    | false => exact h.moved _ rfl (by rw [hp]; rfl) (by simp [hp])
    | true => exact h.moved _ rfl (by rw [hp]; rfl) (by simp [hp])
  | beginDrain =>
    obtain ⟨hp, rfl⟩ := heffect
    exact {
      places := h.places
      opened := h.opened
      live := h.live
      permits := h.permits
      seen := h.seen
      drains := by
        have hdrains := h.drains
        rw [hp] at hdrains
        exact congrArg (· + 1) hdrains
      told := fun _ _ _ => rfl
      total := by simpa [held, hp] using h.total }
  | look i => exact h.look heffect
  | poll =>
    obtain ⟨since, next, hp, hactive⟩ := heffect
    split at hactive <;> subst hactive
    · exact h.moved _ rfl (by rw [hp]; rfl) (by simp [hp])
    · exact h.moved _ rfl (by rw [hp]; rfl) (by simp [hp])
  | giveUp =>
    obtain ⟨since, next, hp, -, rfl⟩ := heffect
    exact h.moved _ rfl (by rw [hp]; rfl) (by simp [hp])

theorem run (ops : List Op) (h : Sound limit s) (hr : run ops s = some s') : Sound limit s' :=
  run_keeps Sound.step ops h hr

end Sound

end Service

end MatrixGateway
