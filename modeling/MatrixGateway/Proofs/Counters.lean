import MatrixGateway.Proofs.Forwarding
import MatrixGateway.Proofs.Relaying
import MatrixGateway.Proofs.Serving

/-!
# What the counters count

A run of requests leaves in the counters exactly the requests that were done
in time: by route and status, and the undeliverable ones by what went wrong.
A request without a handler, or one that is answered because its time is up,
leaves no trace.
-/

set_option autoImplicit false

namespace MatrixGateway

/-! ## Sums of a tally -/

namespace Tally

variable {α : Type}

def sumOf (t : Tally α) (p : α → Bool) : Nat := ((t.counts.filter (p ·.1)).map (·.2)).sum

def IsFlat (t : Tally α) : Prop := (t.counts.map (·.1)).Nodup

variable [DecidableEq α]

theorem sumOf_bump (t : Tally α) (a : α) (p : α → Bool) :
    (t.bump a).sumOf p = t.sumOf p + if p a then 1 else 0 := by
  obtain ⟨counts⟩ := t
  simp only [sumOf, bump]
  induction counts with
  | nil => cases hp : p a <;> simp [bumpIn, hp]
  | cons c rest ih =>
    obtain ⟨b, n⟩ := c
    by_cases hb : b = a
    · subst hb
      cases hp : p b <;> simp [bumpIn, hp]
      omega
    · cases hp : p b <;> simp [bumpIn, hb, hp, ih]
      omega

theorem mem_bumpIn {a b : α} {counts : List (α × Nat)}
    (h : b ∈ (bumpIn a counts).map (·.1)) : b = a ∨ b ∈ counts.map (·.1) := by
  induction counts with
  | nil => exact Or.inl (by simpa [bumpIn] using h)
  | cons c rest ih =>
    obtain ⟨d, n⟩ := c
    by_cases hd : d = a
    · simp only [bumpIn, hd, if_true, List.map_cons, List.mem_cons] at h ⊢
      exact h.imp_right Or.inr
    · simp only [bumpIn, hd, if_false, List.map_cons, List.mem_cons] at h ⊢
      rcases h with h | h
      · exact Or.inr (Or.inl h)
      · exact (ih h).imp_right Or.inr

theorem IsFlat.bump {t : Tally α} (h : t.IsFlat) (a : α) : (t.bump a).IsFlat := by
  obtain ⟨counts⟩ := t
  simp only [IsFlat, Tally.bump] at h ⊢
  induction counts with
  | nil => simp [bumpIn]
  | cons c rest ih =>
    obtain ⟨b, n⟩ := c
    rw [List.map_cons, List.nodup_cons] at h
    by_cases hb : b = a
    · simp only [bumpIn, hb, if_true, List.map_cons, List.nodup_cons]
      exact hb ▸ h
    · simp only [bumpIn, hb, if_false, List.map_cons, List.nodup_cons]
      exact ⟨fun hmem => (mem_bumpIn hmem).elim hb h.1, ih h.2⟩

end Tally

/-! ## One request -/

def Transport.failureKind? : Transport.Outcome → Option String
  | .error f => some f.kind
  | .ok response =>
    if 100 ≤ response.status ∧ response.status ≤ 999 then none else some "invalid_status"

namespace Bridge

theorem conclude_kind (outcome : Transport.Outcome) :
    (conclude outcome).2 = Transport.failureKind? outcome := by
  unfold conclude Transport.failureKind?
  cases outcome with
  | error f => rfl
  | ok response =>
    dsimp only
    split <;> rfl

theorem conclude_failure {outcome : Transport.Outcome}
    (h : (Transport.failureKind? outcome).isSome = true) :
    (conclude outcome).1 = refuse .forward := by
  unfold conclude
  cases outcome with
  | error f => rfl
  | ok response =>
    unfold Transport.failureKind? at h
    dsimp only at h ⊢
    split
    · rename_i hstatus
      rw [if_pos hstatus] at h
      contradiction
    · rfl

end Bridge

namespace Router

namespace Call

variable (router : Router) (c : Call)

/-- What the handler does with the request, if it is given the time. -/
def outcome : Reaction := router.reaction c.peers c.fresh c.request c.originDelay

/-- Whether there is a handler and it is done in time. -/
def isDone : Bool := isHandled c.request && decide ((c.outcome router).time < router.writeTimeout)

def failure? : Option String :=
  (c.outcome router).submitted.bind fun s => Transport.failureKind? (c.peers.transport s.2).2

def status : Nat :=
  if c.isDone router then (c.outcome router).answer.status
  else if isHandled c.request then 408 else 404

/-- The gateway's own refusal follows each failure, and only requests that are bridged fail. -/
theorem failure_refused :
    (c.outcome router).undelivered = c.failure? router ∧
      ((c.failure? router).isSome = true →
        route c.request = .api ∧ (c.outcome router).answer = Bridge.refuse .forward) := by
  unfold failure? outcome reaction Router.handle
  rw [route_named]
  cases route c.request with
  | media =>
    have hnone : ∀ r, (router.media.handle c.peers r).submitted = none ∧
        (router.media.handle c.peers r).undelivered = none := by
      intro r
      rcases MediaOrigin.handle_cases router.media c.peers r with
        ⟨-, hr⟩ | ⟨_, _, -, hr⟩ | ⟨_, _, _, _, -, -, hr⟩
      all_goals rw [hr]; exact ⟨rfl, rfl⟩
    obtain ⟨hsubmitted, hundelivered⟩ := hnone (named c.request c.fresh)
    dsimp only
    split <;> simp [hsubmitted, hundelivered]
  | api =>
    dsimp only
    unfold Bridge.handle
    split
    · simp
    · dsimp only [Option.bind_some]
      exact ⟨Bridge.conclude_kind _, fun h => ⟨rfl, Bridge.conclude_failure h⟩⟩

end Call

variable (router : Router) (c : Call) (m : Metrics)

theorem serve_undone (h : c.isDone router = false) :
    (router.serve c.peers c.fresh c.request m c.originDelay).2 = m ∧
      (router.serve c.peers c.fresh c.request m c.originDelay).1.answer.status =
        c.status router := by
  unfold Call.status
  rw [h, if_neg Bool.false_ne_true]
  cases hh : isHandled c.request with
  | false =>
    rw [serve_unhandled c.request c.fresh router c.peers m c.originDelay hh]
    exact ⟨rfl, status_answered c.request c.fresh _⟩
  | true =>
    have hlate : router.writeTimeout ≤ (c.outcome router).time := by
      rw [Call.isDone, hh, Bool.true_and] at h
      exact Nat.le_of_not_lt (of_decide_eq_false h)
    rw [serve_late c.request c.fresh router c.peers m c.originDelay hh hlate]
    exact ⟨rfl, status_answered c.request c.fresh _⟩

theorem serve_done (h : c.isDone router = true) :
    (router.serve c.peers c.fresh c.request m c.originDelay).2 =
        counted m (route c.request) (c.outcome router) ∧
      (router.serve c.peers c.fresh c.request m c.originDelay).1.answer.status =
        c.status router := by
  unfold Call.status
  rw [h, if_pos rfl]
  rw [Call.isDone, Bool.and_eq_true] at h
  have hin : (c.outcome router).time < router.writeTimeout := of_decide_eq_true h.2
  rw [serve_in_time c.request c.fresh router c.peers m c.originDelay h.1 hin]
  exact ⟨rfl, status_answered c.request c.fresh _⟩

/-! ## Runs -/

def Call.failsWith (kind : String) : Bool :=
  c.isDone router && decide (route c.request = .api ∧
    (c.outcome router).answer = Bridge.refuse .forward ∧ c.failure? router = some kind)

theorem serve_metrics :
    (router.serve c.peers c.fresh c.request m c.originDelay).2 =
      if c.isDone router then counted m (route c.request) (c.outcome router) else m := by
  cases h : c.isDone router with
  | false => exact (serve_undone router c m h).1
  | true => exact (serve_done router c m h).1

theorem serve_status :
    (router.serve c.peers c.fresh c.request m c.originDelay).1.answer.status = c.status router := by
  cases h : c.isDone router with
  | false => exact (serve_undone router c m h).2
  | true => exact (serve_done router c m h).2

theorem requests_counted (route : Route) (reaction : Reaction) :
    (counted m route reaction).requests = m.requests.bump (route, reaction.answer.status) ∧
      (counted m route reaction).durations = m.durations.bump route := by
  unfold counted Metrics.finished
  cases reaction.undelivered <;> exact ⟨rfl, rfl⟩

theorem failures_of_counted (route : Route) (reaction : Reaction) :
    (counted m route reaction).failures =
      match reaction.undelivered with
      | some kind => m.failures.bump kind
      | none => m.failures := by
  unfold counted Metrics.finished
  cases reaction.undelivered <;> rfl

theorem serve_requests (rt : Route) (status : Nat) :
    (router.serve c.peers c.fresh c.request m c.originDelay).2.requests.count (rt, status) =
      m.requests.count (rt, status) +
        if c.isDone router && decide (route c.request = rt) &&
          decide ((c.outcome router).answer.status = status) then 1 else 0 := by
  rw [serve_metrics]
  cases c.isDone router with
  | false => simp
  | true =>
    rw [if_pos rfl, (requests_counted m _ _).1, Tally.count_bump]
    simp

theorem serve_failures (kind : String) :
    (router.serve c.peers c.fresh c.request m c.originDelay).2.failures.count kind =
      m.failures.count kind + if c.failsWith router kind then 1 else 0 := by
  obtain ⟨hkind, hrefused⟩ := c.failure_refused router
  have hends : c.failsWith router kind =
      (c.isDone router && decide (c.failure? router = some kind)) := by
    rw [Call.failsWith]
    congr 2
    apply propext
    refine ⟨fun h => h.2.2, fun h => ?_⟩
    obtain ⟨hroute, hanswer⟩ := hrefused (by rw [h]; rfl)
    exact ⟨hroute, hanswer, h⟩
  rw [serve_metrics, hends]
  cases c.isDone router with
  | false => simp
  | true =>
    rw [if_pos rfl, failures_counted, hkind]
    simp

theorem run_adds {f : Metrics → Nat} {p : Call → Bool}
    (hstep : ∀ (c : Call) (m : Metrics),
      f (router.serve c.peers c.fresh c.request m c.originDelay).2 = f m + if p c then 1 else 0)
    (cs : List Call) (m : Metrics) : f (run router cs m).2 = f m + cs.countP p := by
  induction cs generalizing m with
  | nil => rfl
  | cons c cs ih =>
    rw [run, ih, hstep, List.countP_cons]
    omega

/-- The counters of one router, with each other. -/
structure Balanced (m : Metrics) : Prop where
  flat : m.requests.IsFlat ∧ m.durations.IsFlat ∧ m.failures.IsFlat
  durations : ∀ route, m.durations.count route = m.requests.sumOf (·.1 = route)
  undelivered : m.failures.sumOf (fun _ => true) ≤ m.requests.count (.api, 502)

theorem Balanced.step {m : Metrics} (h : Balanced m) :
    Balanced (counted m (route c.request) (c.outcome router)) := by
  obtain ⟨hrequests, hdurations⟩ := requests_counted m (route c.request) (c.outcome router)
  have hfailures := failures_of_counted m (route c.request) (c.outcome router)
  obtain ⟨hkind, hrefused⟩ := c.failure_refused router
  constructor
  · rw [hrequests, hdurations, hfailures]
    refine ⟨h.flat.1.bump _, h.flat.2.1.bump _, ?_⟩
    split
    · exact h.flat.2.2.bump _
    · exact h.flat.2.2
  · intro rt
    rw [hrequests, hdurations, Tally.count_bump, Tally.sumOf_bump, h.durations rt]
    simp
  · rw [hrequests, hfailures, Tally.count_bump, hkind]
    cases hf : c.failure? router with
    | none => exact Nat.le_add_right_of_le h.undelivered
    | some kind =>
      obtain ⟨hroute, hanswer⟩ := hrefused (by rw [hf]; rfl)
      have hstatus : (c.outcome router).answer.status = 502 := by
        rw [hanswer]
        rfl
      rw [hroute, hstatus, if_pos rfl]
      dsimp only
      rw [Tally.sumOf_bump, if_pos rfl]
      exact Nat.add_le_add_right h.undelivered 1

theorem Balanced.run (cs : List Call) {m : Metrics} (h : Balanced m) :
    Balanced (router.run cs m).2 := by
  induction cs generalizing m with
  | nil => exact h
  | cons c cs ih =>
    rw [Router.run]
    apply ih
    rw [serve_metrics]
    split
    · exact h.step router c
    · exact h

theorem run_statuses (cs : List Call) :
    (run router cs m).1.map (·.answer.status) = cs.map (Call.status router) := by
  induction cs generalizing m with
  | nil => rfl
  | cons c cs ih => rw [run, List.map_cons, List.map_cons, serve_status, ih]

/-- After a run, each counter tells how many requests were done in time with its label; each
duration is one of a counted request; and the failures are the bridged requests that ended in
a refusal, so they are among those answered 502. A request that is not done in time is
answered 404 without a handler, and otherwise 408, and no counter knows of it. -/
theorem run_conserves (cs : List Call) :
    let m := (run router cs {}).2
    (∀ rt status, m.requests.count (rt, status) =
      cs.countP fun c => c.isDone router && decide (route c.request = rt) &&
        decide ((c.outcome router).answer.status = status)) ∧
    (∀ rt, m.durations.count rt = m.requests.sumOf (·.1 = rt)) ∧
    (∀ kind, m.failures.count kind = cs.countP fun c => c.failsWith router kind) ∧
    m.failures.sumOf (fun _ => true) ≤ m.requests.count (.api, 502) ∧
    (m.requests.IsFlat ∧ m.durations.IsFlat ∧ m.failures.IsFlat) ∧
    (run router cs {}).1.map (·.answer.status) = cs.map (Call.status router) ∧
    ∀ (c : Call) (before : Metrics),
      (router.serve c.peers c.fresh c.request before c.originDelay).2 =
        if c.isDone router then counted before (route c.request) (c.outcome router)
        else before := by
  have hempty : Balanced {} :=
    ⟨⟨List.nodup_nil, List.nodup_nil, List.nodup_nil⟩, fun _ => rfl, Nat.le_refl 0⟩
  have hbalanced := hempty.run router cs
  refine ⟨fun rt status => ?_, hbalanced.durations, fun kind => ?_, hbalanced.undelivered,
    hbalanced.flat, run_statuses router {} cs, serve_metrics router⟩
  · exact (run_adds router (f := fun m => m.requests.count (rt, status))
      (fun c m => serve_requests router c m rt status) cs {}).trans (Nat.zero_add _)
  · exact (run_adds router (f := fun m => m.failures.count kind)
      (fun c m => serve_failures router c m kind) cs {}).trans (Nat.zero_add _)

end Router

end MatrixGateway
