import MatrixGateway.Proofs.Reports
import MatrixGateway.Proofs.Stalls

/-!
# Whether the time for an answer is enough

A warning is told at startup when the worst case of a delivery is longer than the time for an
answer. Without it a homeserver that no connection can be made to is reported in time, but for one
case: a delivery that takes all of its worst case, which must be all the time there is. Every
attempt then takes its whole time, and no pause may have a draw in it.
-/

set_option autoImplicit false

namespace MatrixGateway

namespace Backoff

/-! ## Pauses with a draw and without -/

theorem jitterRange_pos_of_secs {base max : Span} (hbase : Span.nanosPerSec ≤ base.nanos)
    (hmax : Span.nanosPerSec ≤ max.nanos) (h : max.millis < UInt64.size) {k : Nat} (hk : 1 ≤ k) :
    0 < jitterRange (capped k base max) := by
  have hmultiple : 1 ≤ multiple k := multiple_mono hk
  have hgrown := Nat.mul_le_mul_left base.nanos hmultiple
  have hspan := base.nanos_le
  apply jitterRange_pos base h
  rw [Span.le_iff, nanos_capped]
  simp only [Span.ofMillis, Span.nanos_clamp, Span.nanosPerSec, Span.nanosPerMilli] at *
  omega

theorem capped_zero (k : Nat) (max : Span) : capped k Span.zero max = Span.zero :=
  if_pos (Or.inr rfl)

theorem nanos_delay_zero (k draw : Nat) (max : Span) : (delay k Span.zero max draw).nanos = 0 := by
  simp [delay, capped_zero, jitterRange, Span.millis, Span.ofMillis]

theorem ceilingSum_zero (k count : Nat) (max : Span) : ceilingSum Span.zero max k count = 0 := by
  induction count generalizing k with
  | zero => rfl
  | succ count ih =>
    simp [ceilingSum, ih, ceiling, capped_zero, jitterRange, Span.millis, Span.ofMillis]

end Backoff

namespace Transport

/-! ## Deliveries that take all of the worst case -/

namespace Delivery

theorem sum_const {α : Type} {f : α → Nat} {c : Nat} {l : List α} (h : ∀ a ∈ l, f a = c) :
    l.foldr (fun a n => f a + n) 0 = l.length * c := by
  induction l with
  | nil => simp
  | cons a l ih =>
    rw [List.foldr_cons, ih fun b hb => h b (List.mem_cons_of_mem _ hb), h a List.mem_cons_self,
      List.length_cons, Nat.succ_mul, Nat.add_comm]

theorem elapsed_run_full (p : Params) (m : Http.Method) (peer : Nat → Attempt) (draw : Nat → Nat)
    {limit : Nat} (k retries : Nat) (hlimit : 0 < limit)
    (h : ∀ a ∈ (run p m peer draw k retries).attempts, a.took ≤ limit)
    (hfull : (run p m peer draw k retries).elapsed =
      (retries + 1) * limit + Backoff.ceilingSum p.flightInterval Backoff.cap k retries) :
    (run p m peer draw k retries).attempts.length = retries + 1 ∧
      (∀ a ∈ (run p m peer draw k retries).attempts, a.took = limit) ∧
      ∀ i < retries, (Backoff.delay (k + i) p.flightInterval Backoff.cap (draw (k + i))).nanos =
        (Backoff.ceiling (k + i) p.flightInterval Backoff.cap).nanos := by
  induction retries generalizing k with
  | zero =>
    rw [run_last p m peer draw k 0 (Or.inl rfl)] at hfull ⊢
    rw [elapsed_single, Backoff.ceilingSum] at hfull
    refine ⟨rfl, ?_, fun i hi => absurd hi (Nat.not_lt_zero i)⟩
    simpa using hfull
  | succ retries ih =>
    rw [Nat.succ_mul, Backoff.ceilingSum] at hfull
    by_cases hagain : (peer k).mayRepeat m = true
    · rw [run_again p m peer draw k retries hagain] at h hfull ⊢
      have htook := h (peer k) List.mem_cons_self
      have hrest : ∀ a ∈ (run p m peer draw (k + 1) retries).attempts, a.took ≤ limit :=
        fun a ha => h a (List.mem_cons_of_mem _ ha)
      have hpause := Backoff.delay_le_ceiling p.flightInterval Backoff.cap k (draw k)
      have hrun := elapsed_run_le p m peer draw limit (k + 1) retries hrest
      rw [elapsed_cons] at hfull
      obtain ⟨hlength, hwhole, hpauses⟩ := ih (k + 1) hrest (by omega)
      refine ⟨congrArg (· + 1) hlength, fun a ha => ?_, fun i hi => ?_⟩
      · rcases List.mem_cons.mp ha with rfl | ha
        · omega
        · exact hwhole a ha
      · cases i with
        | zero =>
          rw [Nat.add_zero]
          omega
        | succ i =>
          rw [← Nat.add_assoc, Nat.add_right_comm]
          exact hpauses i (Nat.lt_of_succ_lt_succ hi)
    · have hlast := run_last p m peer draw k (retries + 1) (Or.inr (eq_false_of_ne_true hagain))
      rw [hlast] at h hfull
      have htook := h (peer k) List.mem_cons_self
      have hmore : 0 < (retries + 1) * limit := Nat.mul_pos (Nat.succ_pos retries) hlimit
      rw [elapsed_single] at hfull
      omega

end Delivery

namespace Params

variable (p : Params)

theorem nanos_ackTimeout_pos : 0 < p.ackTimeout.nanos := by
  have hpos : 1 ≤ max p.transmissionAckTimeoutSecs 1 := by
    change 1 ≤ if p.transmissionAckTimeoutSecs ≤ 1 then 1 else p.transmissionAckTimeoutSecs
    split
    · exact UInt64.le_refl 1
    · exact UInt64.le_of_lt (UInt64.not_le.mp ‹_›)
  rw [UInt64.le_iff_toNat_le, UInt64.toNat_one] at hpos
  rw [ackTimeout, Span.nanos_ofSecs]
  exact Nat.mul_pos hpos (by decide)

theorem maxAttempts_eq_one_iff : p.maxAttempts = 1 ↔ p.transmissionMaxRetransmits = 0 := by
  rw [← UInt32.toNat_inj, UInt32.toNat_zero, maxAttempts, UInt32.size]
  omega

theorem flightInterval_zero (h : p.flightIntervalSecs = 0) : p.flightInterval = Span.zero := by
  rw [flightInterval, h]
  rfl

theorem flightInterval_pos (h : p.flightIntervalSecs ≠ 0) :
    Span.nanosPerSec ≤ p.flightInterval.nanos := by
  rw [flightInterval, Span.nanos_ofSecs]
  refine Nat.le_mul_of_pos_left _ (Nat.pos_of_ne_zero fun h0 => h ?_)
  exact UInt64.toNat_inj.mp h0

/-- A delivery that is the worst case itself: all attempts are made, each takes its whole time,
and no pause has a draw in it. -/
structure IsWorst (d : Delivery) : Prop where
  undrawn : p.transmissionMaxRetransmits = 0 ∨ p.flightIntervalSecs = 0
  attempts : d.attempts.length = p.maxAttempts
  took : ∀ a ∈ d.attempts, a.took = p.ackTimeout.nanos

theorem ceilingSum_undrawn (h : p.transmissionMaxRetransmits = 0 ∨ p.flightIntervalSecs = 0) :
    Backoff.ceilingSum p.flightInterval Backoff.cap 1 p.transmissionMaxRetransmits.toNat = 0 := by
  rcases h with hnone | hzero
  · rw [hnone]
    rfl
  · rw [p.flightInterval_zero hzero, Backoff.ceilingSum_zero]

section Deliveries

variable (m : Http.Method) (peer : Nat → Attempt) (draw : Nat → Nat)

theorem pauses_undrawn (h : p.transmissionMaxRetransmits = 0 ∨ p.flightIntervalSecs = 0) :
    ∀ s ∈ (p.deliver m peer draw).pauses, s.nanos = 0 := by
  intro s hs
  rw [deliver, Delivery.run_pauses] at hs
  obtain ⟨i, hi, rfl⟩ := List.mem_map.mp hs
  rcases h with hnone | hzero
  · obtain ⟨k, -, hk, hattempts, -⟩ := p.deliver_last m peer draw
    rw [p.maxAttempts_eq_one_iff.mpr hnone] at hk
    rw [List.mem_range'_1] at hi
    change (p.deliver m peer draw).attempts = _ at hattempts
    have hlength := congrArg List.length hattempts
    rw [List.length_map, List.length_range', deliver] at hlength
    omega
  · rw [p.flightInterval_zero hzero, Backoff.nanos_delay_zero]

theorem elapsed_eq_worstCase_iff (hfits : p.worstCase ≠ Span.longest)
    (h : ∀ a ∈ (p.deliver m peer draw).attempts, a.took ≤ p.ackTimeout.nanos) :
    (p.deliver m peer draw).elapsed = p.worstCase.nanos ↔ p.IsWorst (p.deliver m peer draw) := by
  have hb := p.maxAttempts_bounds
  have hretries : p.maxAttempts - 1 ≤ p.transmissionMaxRetransmits.toNat := by
    unfold maxAttempts
    omega
  have hworst : p.worstCase.nanos = p.maxAttempts * p.ackTimeout.nanos +
      Backoff.ceilingSum p.flightInterval Backoff.cap 1 p.transmissionMaxRetransmits.toNat := by
    have hnanos := p.nanos_worstCase
    have hbelow : p.worstCase.nanos ≠ Span.limit := fun hlimit =>
      hfits (Span.eq_of_nanos (by simpa [Span.longest] using hlimit))
    omega
  constructor
  · intro hfull
    have hrun := Delivery.elapsed_run_le p m peer draw p.ackTimeout.nanos 1 (p.maxAttempts - 1) h
    have hpauses := Backoff.ceilingSum_mono p.flightInterval Backoff.cap 1 hretries
    rw [Nat.sub_add_cancel hb.1] at hrun
    obtain ⟨hlength, htook, hceilings⟩ := Delivery.elapsed_run_full p m peer draw 1
      (p.maxAttempts - 1) p.nanos_ackTimeout_pos h (by
        rw [Nat.sub_add_cancel hb.1]
        change (p.deliver m peer draw).elapsed = _
        change (p.deliver m peer draw).elapsed ≤ _ at hrun
        omega)
    refine ⟨?_, hlength.trans (Nat.sub_add_cancel hb.1), htook⟩
    by_contra hdrawn
    obtain ⟨hsome, hinterval⟩ := not_or.mp hdrawn
    have hmany : 0 < p.maxAttempts - 1 := by
      have hone := mt p.maxAttempts_eq_one_iff.mp hsome
      omega
    -- the first pause of a run has a draw in it, and stays below its ceiling
    have hcap : Backoff.cap.millis < UInt64.size := by decide
    have hrange := Backoff.jitterRange_pos_of_secs (p.flightInterval_pos hinterval) (by decide) hcap
      (Nat.le_refl 1)
    exact Nat.ne_of_lt (Backoff.delay_lt_ceiling _ hcap 1 (draw 1) hrange) (hceilings 0 hmany)
  · rintro ⟨hundrawn, hlength, htook⟩
    rw [Delivery.elapsed, Delivery.sum_const htook,
      Delivery.sum_const (p.pauses_undrawn m peer draw hundrawn), Nat.mul_zero, hlength, hworst,
      p.ceilingSum_undrawn hundrawn]

end Deliveries

end Params

/-! ## Deliveries that never meet a server -/

def Contact.IsUnmade (limit : Span) : Contact → Prop
  | refused nanos => nanos ≤ limit.nanos
  | overdue => True
  | wrote .. => False

theorem Contact.attempt_unmade {p : Params} {c : Contact} (h : c.IsUnmade p.ackTimeout)
    (m : Http.Method) (u : Url) :
    (c.attempt p m u).took ≤ p.ackTimeout.nanos ∧ ∃ e, (c.attempt p m u).result = .error e := by
  cases c with
  | refused nanos => exact ⟨h, _, rfl⟩
  | overdue => exact ⟨Nat.le_refl _, _, rfl⟩
  | wrote nanos bytes => exact h.elim

theorem Submission.attempt_unmade (s : Submission) {p : Params} {contact : Errand → Contact}
    (h : ∀ e, (contact e).IsUnmade p.ackTimeout) (u : Url) :
    (s.attempt p u contact).took ≤ p.ackTimeout.nanos ∧
      ∃ e, (s.attempt p u contact).result = .error e := by
  unfold attempt
  cases s.errand u with
  | error reason => exact ⟨Nat.zero_le _, _, rfl⟩
  | ok e => exact Contact.attempt_unmade (h e) s.method u

namespace Params

theorem isWorst_single (p : Params) {s : Submission} {u : Url}
    (hnone : p.transmissionMaxRetransmits = 0) (hd : s.destination = .ok u)
    (he : (s.errand u).isOk = true) (draw : Nat → Nat) :
    p.IsWorst (p.send s (fun _ _ _ => .overdue) draw) := by
  obtain ⟨k, hk, hle, hattempts, -⟩ := p.deliver_last s.method
    (fun _ => s.attempt p u fun _ => .overdue) draw
  have hone := p.maxAttempts_eq_one_iff.mpr hnone
  obtain rfl : k = 1 := by omega
  rw [p.send_eq hd]
  refine ⟨Or.inl hnone, by rw [hattempts, hone]; rfl, fun a ha => ?_⟩
  rw [hattempts] at ha
  obtain rfl := List.mem_singleton.mp ha
  unfold Submission.attempt
  cases hs : s.errand u with
  | error reason => simp [hs, Except.isOk, Except.toBool] at he
  | ok e => rfl

variable {p : Params} (s : Submission) {contact : Nat → Url → Errand → Contact} (draw : Nat → Nat)
  (h : ∀ k u e, (contact k u e).IsUnmade p.ackTimeout)

include h

theorem transport_unmade :
    ∃ f, p.transport contact draw s = ((p.send s contact draw).elapsed, .error f) := by
  have houtcome : ∃ f, (p.send s contact draw).outcome = .error f := by
    cases hd : s.destination with
    | error f => exact ⟨f, by rw [send, hd]⟩
    | ok u =>
      obtain ⟨k, -, -, -, houtcome, -⟩ := p.deliver_last s.method
        (fun i => s.attempt p u (contact i u)) draw
      obtain ⟨-, ⟨f, reason⟩, hresult⟩ := s.attempt_unmade (h k u) u
      rw [p.send_eq hd, houtcome, Attempt.outcome, hresult]
      exact ⟨_, rfl⟩
  obtain ⟨f, hf⟩ := houtcome
  exact ⟨f, by rw [transport, hf]⟩

theorem send_unmade_took : ∀ a ∈ (p.send s contact draw).attempts, a.took ≤ p.ackTimeout.nanos := by
  intro a ha
  cases hd : s.destination with
  | error f => simp [send, hd] at ha
  | ok u =>
    obtain ⟨k, -, -, hattempts, -⟩ := p.deliver_last s.method
      (fun i => s.attempt p u (contact i u)) draw
    rw [p.send_eq hd, hattempts] at ha
    obtain ⟨i, -, rfl⟩ := List.mem_map.mp ha
    exact (s.attempt_unmade (h i u) u).1

theorem send_unmade_elapsed (hfits : p.worstCase ≠ Span.longest) :
    (p.send s contact draw).elapsed ≤ p.worstCase.nanos ∧
      ((p.send s contact draw).elapsed = p.worstCase.nanos ↔
        p.IsWorst (p.send s contact draw)) := by
  have htook := send_unmade_took s draw h
  cases hd : s.destination with
  | ok u =>
    rw [p.send_eq hd] at htook ⊢
    exact ⟨(p.elapsed_le_worstCase s.method _ draw htook).resolve_right hfits,
      p.elapsed_eq_worstCase_iff s.method _ draw hfits htook⟩
  | error f =>
    have hworst : 0 < p.worstCase.nanos := by
      have hack := Nat.mul_pos p.maxAttempts_bounds.1 p.nanos_ackTimeout_pos
      have hnanos := p.nanos_worstCase
      have hlimit : 0 < Span.limit := by decide
      omega
    have hsend : p.send s contact draw = ⟨.error f, [], []⟩ := by
      rw [send, hd]
    rw [hsend]
    refine ⟨Nat.zero_le _, fun hzero => absurd hzero (Nat.ne_of_lt hworst), fun hworst => ?_⟩
    exact absurd hworst.attempts (Nat.ne_of_lt p.maxAttempts_bounds.1)

end Params

end Transport

/-! ## Gateways that do not warn -/

open Transport

namespace Gateway

variable {g : Gateway} (h : g.cutsOff = false)

include h

theorem worstCase_le_write :
    g.params.worstCase.nanos ≤ (Span.ofSecs g.settings.timeouts.writeSecs).nanos :=
  Nat.not_lt.mp (of_decide_eq_false h)

theorem worstCase_ne_longest : g.params.worstCase ≠ Span.longest := by
  intro hlongest
  have hle := worstCase_le_write h
  have hsecs := g.settings.timeouts.writeSecs.toNat_lt
  rw [hlongest, Span.nanos_ofSecs] at hle
  simp only [Span.longest, Span.nanos_clamp, Span.limit, Span.nanosPerSec, Nat.min_self,
    UInt64.size] at *
  omega

/-- What meets no server takes the time for an answer only by being the worst case, and that all
the time there is. -/
theorem write_le_elapsed_iff (s : Submission) {contact : Nat → Url → Errand → Contact}
    (draw : Nat → Nat) (hunmade : ∀ k u e, (contact k u e).IsUnmade g.params.ackTimeout) :
    (Span.ofSecs g.settings.timeouts.writeSecs).nanos ≤ (g.params.send s contact draw).elapsed ↔
      g.params.worstCase = Span.ofSecs g.settings.timeouts.writeSecs ∧
        g.params.IsWorst (g.params.send s contact draw) := by
  have hwrite := worstCase_le_write h
  obtain ⟨hle, hworst⟩ := Params.send_unmade_elapsed s draw hunmade (worstCase_ne_longest h)
  constructor
  · intro hlate
    exact ⟨Span.eq_of_nanos (by omega), hworst.mp (by omega)⟩
  · rintro ⟨hequal, hall⟩
    rw [← hequal, hworst.mpr hall]

end Gateway

namespace Router

variable {r : Http.Request} (router : Router) (peers : Peers)

theorem serve_undelivered (fresh : Bytes) (m : Metrics) (originDelay : Nat) {elapsed : Nat}
    {f : Failure} (hroute : route r = .api) (hhandled : isHandled r = true)
    (hbody : r.body.read (some router.bridge.maxBody) = (0, some []))
    (houtcome : peers.transport (router.bridge.submission (named r fresh) []) =
      (elapsed, .error f)) :
    (router.serve peers fresh r m originDelay).1.answer =
      if elapsed < router.writeTimeout then answered r fresh (Bridge.refuse .forward)
      else answered r fresh { status := 408 } := by
  have hreaction : router.reaction peers fresh r originDelay =
      { time := elapsed, answer := Bridge.refuse .forward,
        submitted := some (0, router.bridge.submission (named r fresh) []),
        undelivered := some f.kind } := by
    unfold reaction handle Bridge.handle Bridge.readBody
    rw [route_named, hroute, named_body, hbody]
    simp only [Nat.zero_le, if_true, houtcome, Bridge.conclude, Nat.zero_add]
  have htime := congrArg Reaction.time hreaction
  split
  · rename_i hin
    rw [serve_in_time r fresh router peers m originDelay hhandled (htime ▸ hin), hreaction]
  · rename_i hlate
    rw [serve_late r fresh router peers m originDelay hhandled (htime ▸ Nat.not_lt.mp hlate)]

def versions : Http.Request where
  method := .get
  uri := { rawPath := "/_matrix/client/versions".toList }
  headers := ⟨[(.requestId, Bytes.ofString "r1")]⟩

theorem route_versions : route versions = .api := by decide +kernel

theorem isHandled_versions : isHandled versions = true := by decide +kernel

theorem versions_errand {b : Bridge}
    (hb : b.homeserver = Homeserver.localhost "localhost:8448" 8448) :
    ∃ u, (b.submission versions []).destination = .ok u ∧
      ((b.submission versions []).errand u).isOk = true := by
  let b₀ : Bridge := ⟨Homeserver.localhost "localhost:8448" 8448, 0, 0⟩
  have hsame : b.submission versions [] = b₀.submission versions [] := by
    rw [Bridge.submission, hb]
    rfl
  have hparsed : Homeserver.parse "localhost:8448" = .ok b₀.homeserver :=
    Homeserver.parse_localhost_8448
  have hdialable : b₀.homeserver.IsDialable :=
    Homeserver.isDialable_localhost "8448".toList rfl (by decide)
  have huri : Http.Uri.parse (Bytes.ofString "/_matrix/client/versions") = .ok versions.uri := by
    decide +kernel
  rw [hsame]
  exact ⟨_, Bridge.destination_dialable (b := b₀) [] hparsed (Http.Uri.parse_shaped huri) hdialable
    (by decide), by decide +kernel⟩

end Router

namespace Gateway

section Unmade

variable (g : Gateway) (r : Http.Request) (fresh : Bytes) (m : Metrics)
  (origin : Option (Errand → Http.Wire.Arrival)) (originDelay : Nat)
  (contact : Nat → Url → Errand → Contact) (draw : Nat → Nat)

theorem serve_unmade (hroute : Router.route r = .api) (hhandled : Router.isHandled r = true)
    (hbody : r.body.read (some g.settings.bridge.maxBodyBytes.toNat) = (0, some []))
    (hunmade : ∀ k u e, (contact k u e).IsUnmade g.params.ackTimeout) :
    ((Router.ofSettings g.settings g.homeserver g.media).serve
      ⟨g.params.transport contact draw, origin⟩ fresh r m originDelay).1.answer =
      if (g.params.send ((Router.ofSettings g.settings g.homeserver g.media).bridge.submission
          (Router.named r fresh) []) contact draw).elapsed <
          (Span.ofSecs g.settings.timeouts.writeSecs).nanos
      then Router.answered r fresh (Bridge.refuse .forward)
      else Router.answered r fresh { status := 408 } := by
  obtain ⟨f, houtcome⟩ := Params.transport_unmade
    ((Router.ofSettings g.settings g.homeserver g.media).bridge.submission
      (Router.named r fresh) []) draw hunmade
  exact Router.serve_undelivered _ _ fresh m originDelay hroute hhandled hbody houtcome

/-- Where a gateway does not warn and no connection can be made to the homeserver, a bridged
request without a body is refused in time, unless the delivery is the worst case itself and that
is all the time for an answer. Then the answer is the bare one of a request that came too late. -/
theorem unmade_refused_iff (hwarned : g.cutsOff = false) (hroute : Router.route r = .api)
    (hbody : r.body.read (some g.settings.bridge.maxBodyBytes.toNat) = (0, some []))
    (hunmade : ∀ k u e, (contact k u e).IsUnmade g.params.ackTimeout) :
    let router := Router.ofSettings g.settings g.homeserver g.media
    let peers : Peers := ⟨g.params.transport contact draw, origin⟩
    let answer := (router.serve peers fresh r m originDelay).1.answer
    let delivery := g.params.send (router.bridge.submission (Router.named r fresh) []) contact draw
    let late := g.params.worstCase = Span.ofSecs g.settings.timeouts.writeSecs ∧
      g.params.IsWorst delivery
    (Router.IsRefused answer r.method .forward ↔ Router.isHandled r = true ∧ ¬ late) ∧
      (Router.isHandled r = true → late → answer.status = 408 ∧ answer.body = .whole []) := by
  intro router peers answer delivery late
  have hlate : router.writeTimeout ≤ delivery.elapsed ↔ late :=
    write_le_elapsed_iff hwarned _ draw hunmade
  cases hhandled : Router.isHandled r with
  | false =>
    have hanswer : answer = Router.answered r fresh { status := 404 } :=
      congrArg (·.1.answer) (Router.serve_unhandled r fresh router peers m originDelay hhandled)
    have hstatus := (Router.answered_empty r fresh 404).1
    rw [hanswer]
    refine ⟨⟨fun hrefused => ?_, fun h => absurd h.1 Bool.false_ne_true⟩,
      fun h => absurd h Bool.false_ne_true⟩
    exact absurd (hstatus.symm.trans hrefused.status) (by decide)
  | true =>
    have hanswer : answer = if delivery.elapsed < router.writeTimeout
        then Router.answered r fresh (Bridge.refuse .forward)
        else Router.answered r fresh { status := 408 } :=
      serve_unmade g r fresh m origin originDelay contact draw hroute hhandled hbody hunmade
    rw [hanswer, ← hlate]
    by_cases hin : delivery.elapsed < router.writeTimeout
    · rw [if_pos hin]
      exact ⟨⟨fun _ => ⟨rfl, Nat.not_le.mpr hin⟩, fun _ => Router.answered_refuse r fresh .forward⟩,
        fun _ hover => absurd hover (Nat.not_le.mpr hin)⟩
    · rw [if_neg hin]
      obtain ⟨hstatus, hempty⟩ := Router.answered_empty r fresh 408
      refine ⟨⟨fun hrefused => ?_, fun h => absurd (Nat.not_lt.mp hin) h.2⟩,
        fun _ _ => ⟨hstatus, hempty⟩⟩
      exact absurd (hstatus.symm.trans hrefused.status) (by decide)

end Unmade

theorem unmade_refused_by_default :
    let g : Gateway := ⟨{ homeserver := "localhost:8448" },
      Homeserver.localhost "localhost:8448" 8448, {}, Router.atLoopback.media⟩
    let contact : Nat → Url → Errand → Contact := fun _ _ _ => .overdue
    let draw : Nat → Nat := fun k => 100 * k - 1
    g.cutsOff = false ∧ Router.route Router.versions = .api ∧
      Router.isHandled Router.versions = true ∧
      Router.versions.body.read (some g.settings.bridge.maxBodyBytes.toNat) = (0, some []) ∧
      (∀ k u e, (contact k u e).IsUnmade g.params.ackTimeout) ∧
      Router.IsRefused ((Router.ofSettings g.settings g.homeserver g.media).serve
        ⟨g.params.transport contact draw, none⟩ [] Router.versions {}).1.answer
        Router.versions.method .forward := by
  intro g contact draw
  have hwarned : g.cutsOff = false := by decide +kernel
  have hbody : Router.versions.body.read (some g.settings.bridge.maxBodyBytes.toNat) =
      (0, some []) := by decide +kernel
  have hunmade : ∀ k u e, (contact k u e).IsUnmade g.params.ackTimeout := fun _ _ _ => trivial
  have hlonger : g.params.worstCase ≠ Span.ofSecs g.settings.timeouts.writeSecs := by
    decide +kernel
  have hrefused := (unmade_refused_iff g Router.versions [] {} none 0 contact draw hwarned
    Router.route_versions hbody hunmade).1.mpr ⟨Router.isHandled_versions, fun h => hlonger h.1⟩
  exact ⟨hwarned, Router.route_versions, Router.isHandled_versions, hbody, hunmade, hrefused⟩

/-- Two seconds for an answer are enough for one attempt of two seconds, as far as the gateway
knows, and the attempt comes too late. -/
theorem single_attempt_too_late :
    let s : Settings := { homeserver := "localhost:8448", timeouts := { writeSecs := 2 } }
    let env : Environment := fun name =>
      if name = "LB_TRANSMISSION_MAX_RETRANSMITS" then some "0" else none
    s.faults = [] ∧ ∃ engine g, prepare s ⟨{}, 0⟩ env = (engine, .ok g) ∧ g.cutsOff = false ∧
      Router.route Router.versions = .api ∧ Router.isHandled Router.versions = true ∧
      Router.versions.body = .whole [] ∧
      ∀ (fresh : Bytes) (m : Metrics),
        let answer := ((Router.ofSettings g.settings g.homeserver g.media).serve
          ⟨g.params.transport (fun _ _ _ => .overdue) fun _ => 0, none⟩ fresh
          Router.versions m).1.answer
        answer.status = 408 ∧ answer.body = .whole [] ∧
          ¬ Router.IsRefused answer Router.versions.method .forward := by
  intro s env
  have hfaults : s.faults = [] :=
    Settings.faults_timeouts (Settings.faults_default Homeserver.parse_localhost_8448) rfl rfl
      (by decide)
  obtain ⟨media, -, hprepared⟩ := prepare_parsed s ⟨{}, 0⟩ env Homeserver.parse_localhost_8448
  let params : Params := { transmissionMaxRetransmits := 0 }
  have hoverlay : (⟨{}, 0⟩ : Engine).overlay env = (⟨params, 1⟩, .ok params) := by decide +kernel
  rw [hoverlay] at hprepared
  let g : Gateway := ⟨s, Homeserver.localhost "localhost:8448" 8448, params, media⟩
  have hwarned : g.cutsOff = false := by
    have hnot : ¬ Span.ofSecs s.timeouts.writeSecs < params.worstCase := by decide +kernel
    exact decide_eq_false hnot
  have hequal : params.worstCase = Span.ofSecs s.timeouts.writeSecs := by decide +kernel
  refine ⟨hfaults, _, g, hprepared, hwarned, Router.route_versions, Router.isHandled_versions, rfl,
    fun fresh m => ?_⟩
  obtain ⟨u, hdestination, herrand⟩ := Router.versions_errand
    (b := (Router.ofSettings g.settings g.homeserver g.media).bridge) rfl
  have hworst := params.isWorst_single rfl hdestination herrand fun _ => 0
  have hnamed : Router.named Router.versions fresh = Router.versions := if_pos (by decide)
  have hunmade : ∀ (k : Nat) (u : Url) (e : Errand), Contact.overdue.IsUnmade params.ackTimeout :=
    fun _ _ _ => trivial
  have hlate := (write_le_elapsed_iff hwarned _ (fun _ => 0) hunmade).mpr ⟨hequal, hworst⟩
  have hserve := serve_unmade g Router.versions fresh m none 0 (fun _ _ _ => .overdue) (fun _ => 0)
    Router.route_versions Router.isHandled_versions rfl hunmade
  rw [hnamed, if_neg (Nat.not_lt.mpr hlate)] at hserve
  obtain ⟨hstatus, hbody⟩ := Router.answered_empty Router.versions fresh 408
  rw [hserve]
  exact ⟨hstatus, hbody, fun h => absurd (hstatus.symm.trans h.status) (by decide)⟩

end Gateway

end MatrixGateway
