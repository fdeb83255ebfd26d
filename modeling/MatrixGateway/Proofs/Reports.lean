import MatrixGateway.Proofs.WorstCase

/-!
# What a delivery reports

The attempt that ends a delivery decides what it reports: the response if it is
all there, and otherwise a failure that tells why and after how many attempts.
Earlier attempts leave nothing but the pauses behind them, one each, and each
between the delay of its number and that delay's ceiling. Where there is no
destination there is no attempt.
-/

set_option autoImplicit false

namespace MatrixGateway

namespace Transport

namespace Delivery

variable (p : Params) (m : Http.Method) (peer : Nat → Attempt) (draw : Nat → Nat)

theorem run_pauses (k retries : Nat) :
    (run p m peer draw k retries).pauses =
      (List.range' k ((run p m peer draw k retries).attempts.length - 1)).map fun i =>
        Backoff.delay i p.flightInterval Backoff.cap (draw i) := by
  induction retries generalizing k with
  | zero => simp [run_last]
  | succ retries ih =>
    by_cases hagain : (peer k).mayRepeat m = true
    · obtain ⟨j, -, hattempts, -⟩ := run_attempts p m peer draw (k + 1) retries
      rw [run_again p m peer draw k retries hagain]
      simp only [ih, hattempts, List.length_cons, List.length_map, List.length_range',
        Nat.add_sub_cancel]
      rw [List.range'_succ, List.map_cons]
    · rw [run_last p m peer draw k (retries + 1) (Or.inr (eq_false_of_ne_true hagain))]
      rfl

end Delivery

/-! ## Contacts -/

/-- What is reported when the `k`-th attempt is the last one and meets this. -/
def Contact.report (m : Http.Method) (u : Url) (k : Nat) : Contact → Outcome
  | refused _ => .error (.unreachable (sendingFailed u))
  | overdue => .error (.timeout k)
  | wrote _ bytes =>
    match Http.Wire.readReply? m bytes with
    | none => .error (.exhausted k (sendingFailed u))
    | some reply =>
      if reply.isComplete then .ok ⟨reply.status, reply.body⟩
      else .error (.exhausted k "error decoding response body")

theorem Contact.outcome_attempt (p : Params) (m : Http.Method) (u : Url) (k : Nat) (c : Contact) :
    (c.attempt p m u).outcome k = c.report m u k := by
  cases c with
  | refused nanos => rfl
  | overdue => rfl
  | wrote nanos bytes =>
    unfold Contact.attempt Contact.report Attempt.outcome
    simp only
    cases Http.Wire.readReply? m bytes with
    | none => rfl
    | some reply =>
      simp only
      cases reply.isComplete <;> rfl

namespace Submission

def report (s : Submission) (u : Url) (k : Nat) (contact : Errand → Contact) : Outcome :=
  match s.errand u with
  | .error reason => .error (.exhausted k reason)
  | .ok e => (contact e).report s.method u k

theorem outcome_attempt (s : Submission) (p : Params) (u : Url) (k : Nat)
    (contact : Errand → Contact) : (s.attempt p u contact).outcome k = s.report u k contact := by
  unfold attempt report
  cases s.errand u with
  | error reason => rfl
  | ok e => exact Contact.outcome_attempt p s.method u k (contact e)

theorem destination_error {s : Submission} {f : Failure} (h : s.destination = .error f) :
    f = .invalidDestination s.url := by
  unfold destination at h
  simp only at h
  split at h
  · contradiction
  · exact (Except.error.inj h).symm

end Submission

/-! ## The last attempt -/

namespace Params

variable (p : Params)

theorem isLeast_ending {m : Http.Method} {peer : Nat → Attempt} {k : Nat} (hk : 1 ≤ k)
    (hle : k ≤ p.maxAttempts) (hr : ∀ i, 1 ≤ i → i < k → (peer i).mayRepeat m = true)
    (he : p.EndsAt m k (peer k)) : IsLeast {i | 1 ≤ i ∧ p.EndsAt m i (peer i)} k := by
  refine ⟨⟨hk, he⟩, fun i ⟨hi, hie⟩ => ?_⟩
  by_contra hlt
  rcases (p.endsAt_iff m i (peer i)).mp hie with h | h
  · rw [hr i hi (by omega)] at h
    contradiction
  · omega

theorem deliver_ending (m : Http.Method) (peer : Nat → Attempt) (draw : Nat → Nat) :
    let d := p.deliver m peer draw
    d.attempts = (List.range' 1 d.attempts.length).map peer ∧
    IsLeast {i | 1 ≤ i ∧ p.EndsAt m i (peer i)} d.attempts.length ∧
    d.outcome = (peer d.attempts.length).outcome d.attempts.length := by
  obtain ⟨k, hk, hle, ha, ho, hr, he⟩ := p.deliver_last m peer draw
  have hlength : (p.deliver m peer draw).attempts.length = k := by
    rw [ha, List.length_map, List.length_range']
  simp only [hlength]
  exact ⟨ha, p.isLeast_ending hk hle hr he, ho⟩

theorem length_pauses (m : Http.Method) (peer : Nat → Attempt) (draw : Nat → Nat) :
    (p.deliver m peer draw).pauses.length = (p.deliver m peer draw).attempts.length - 1 := by
  unfold deliver
  rw [Delivery.run_pauses, List.length_map, List.length_range']

theorem deliver_pause (m : Http.Method) (peer : Nat → Attempt) (draw : Nat → Nat) {i : Nat}
    (hi : i < (p.deliver m peer draw).attempts.length - 1) : ∃ pause top,
      (p.deliver m peer draw).pauses[i]? = some pause ∧
      Backoff.delay? (i + 1) p.flightInterval Backoff.cap (draw (i + 1)) = some pause ∧
      Backoff.ceiling? (i + 1) p.flightInterval Backoff.cap = some top ∧
      Backoff.capped (i + 1) p.flightInterval Backoff.cap ≤ pause ∧ pause ≤ top := by
  have hcap : Backoff.cap.millis < UInt64.size := by decide
  refine ⟨_, _, ?_, Backoff.delay?_eq _ hcap _ _, Backoff.ceiling?_eq _ hcap _,
    Backoff.capped_le_delay .., Backoff.delay_le_ceiling ..⟩
  unfold deliver at hi ⊢
  rw [Delivery.run_pauses, List.getElem?_map, List.getElem?_range' hi, Nat.one_mul,
    Nat.add_comm 1 i]
  rfl

theorem send_eq {s : Submission} {u : Url} (h : s.destination = .ok u)
    (contact : Nat → Url → Errand → Contact) (draw : Nat → Nat) :
    p.send s contact draw =
      p.deliver s.method (fun i => s.attempt p u (contact i u)) draw := by
  unfold send
  rw [h]

theorem send_outcome {s : Submission} {u : Url} (h : s.destination = .ok u)
    (contact : Nat → Url → Errand → Contact) (draw : Nat → Nat) :
    (p.send s contact draw).outcome =
      s.report u (p.send s contact draw).attempts.length
        (contact (p.send s contact draw).attempts.length u) := by
  obtain ⟨-, -, ho⟩ :=
    p.deliver_ending s.method (fun i => s.attempt p u (contact i u)) draw
  rw [p.send_eq h, ho, Submission.outcome_attempt]

/-- A delivery reports its last attempt, the first one that ends it, and pauses once between
any two. A submission reports what that attempt met, and nothing of what earlier ones met.
Without a destination nothing is attempted. -/
theorem deliver_reports_last (draw : Nat → Nat) :
    (∀ (m : Http.Method) (peer : Nat → Attempt),
      let d := p.deliver m peer draw
      let k := d.attempts.length
      d.attempts = (List.range' 1 k).map peer ∧
      IsLeast {i | 1 ≤ i ∧ p.EndsAt m i (peer i)} k ∧
      (match (peer k).result with
        | .ok r => d.outcome = .ok r
        | .error (.timeout, _) | .error (.connect true, _) => d.outcome = .error (.timeout k)
        | .error (.connect false, reason) => d.outcome = .error (.unreachable reason)
        | .error (.other, reason) => d.outcome = .error (.exhausted k reason)) ∧
      d.pauses.length = k - 1 ∧
      ∀ i < k - 1, ∃ pause top, d.pauses[i]? = some pause ∧
        Backoff.delay? (i + 1) p.flightInterval Backoff.cap (draw (i + 1)) = some pause ∧
        Backoff.ceiling? (i + 1) p.flightInterval Backoff.cap = some top ∧
        Backoff.capped (i + 1) p.flightInterval Backoff.cap ≤ pause ∧ pause ≤ top) ∧
    ∀ (s : Submission) (contact : Nat → Url → Errand → Contact),
      let d := p.send s contact draw
      let k := d.attempts.length
      match s.destination with
      | .error f => f = .invalidDestination s.url ∧ d = ⟨.error f, [], []⟩
      | .ok u =>
        d = p.deliver s.method (fun i => s.attempt p u (contact i u)) draw ∧
        d.outcome = s.report u k (contact k u) ∧
        ∀ other, (p.send s other draw).attempts.length = k → other k = contact k →
          (p.send s other draw).outcome = d.outcome := by
  constructor
  · intro m peer d k
    obtain ⟨ha, hleast, ho⟩ := p.deliver_ending m peer draw
    refine ⟨ha, hleast, ?_, p.length_pauses m peer draw, fun i hi => p.deliver_pause m peer draw hi⟩
    change d.outcome = (peer k).outcome k at ho
    unfold Attempt.outcome at ho
    cases hr : (peer k).result with
    | ok r => rwa [hr] at ho
    | error e =>
      obtain ⟨f, reason⟩ := e
      rw [hr] at ho
      rcases f with (_ | _) | _ | _ <;> exact ho
  · intro s contact d k
    cases hd : s.destination with
    | error f =>
      refine ⟨Submission.destination_error hd, ?_⟩
      change p.send s contact draw = _
      unfold send
      rw [hd]
    | ok u =>
      have ho := p.send_outcome hd contact draw
      refine ⟨p.send_eq hd contact draw, ho, fun other hk hsame => ?_⟩
      rw [p.send_outcome hd other draw, hk, hsame]
      exact ho.symm

/-- A body that broke off and an attempt that came too late leave nothing in the report. -/
example :
    let u : Url := { scheme := "https".toList }
    let contacts : List Contact :=
      [.wrote 0 (Bytes.ofString "HTTP/1.1 200 OK\r\ncontent-length: 9\r\n\r\nbroken"), .overdue,
        .wrote 0 (Bytes.ofString "HTTP/1.1 302 Found\r\ncontent-length: 2\r\n\r\nok")]
    (({} : Params).deliver .get
      (fun k => ((contacts[k - 1]?).getD .overdue).attempt {} .get u) fun _ => 0).outcome =
        .ok ⟨302, Bytes.ofString "ok"⟩ := by
  decide +kernel

end Params

end Transport

end MatrixGateway
