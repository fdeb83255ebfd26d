import MatrixGateway.Proofs.Bridging
import MatrixGateway.Proofs.Reports
import MatrixGateway.Transport.Flights

/-!
# What a flight keeps to

A flight moves only by its own steps, and it moves as one delivery does under the
record that was in force at its launch: the same client and the same request for each
attempt, the pauses and the limit of that record. Replacements and other flights that
come in between leave no trace in it.
-/

set_option autoImplicit false

namespace MatrixGateway.Transport

/-! ## Results without their times -/

abbrev Result := Except (AttemptFailure × String) Response

def Result.mayRepeat (m : Http.Method) (r : Result) : Bool := Attempt.mayRepeat m ⟨0, r⟩

def Result.outcome (k : Nat) (r : Result) : Outcome := Attempt.outcome k ⟨0, r⟩

theorem Flight.after_eq (f : Flight) (k : Nat) (r : Result) :
    f.after k r =
      if k < f.rig.params.maxAttempts ∧ r.mayRepeat f.submission.method = true then .pausing
      else .landed (r.outcome k) := by
  cases r with
  | ok response =>
    simp [after, Result.mayRepeat, Attempt.mayRepeat, Result.outcome, Attempt.outcome]
  | error e => rfl

@[simp]
theorem Rig.ofParams_params (p : Params) : (Rig.ofParams p).params = p := rfl

@[simp]
theorem Rig.ofParams_client (p : Params) : (Rig.ofParams p).client = Client.ofParams p := rfl

namespace Flights

variable {s t : Flights} {f : Flight} {i : Nat} {op : Op}

/-! ## What a step does -/

def own (i : Nat) : Op → Bool
  | .attempt j _ | .resume j _ => j == i
  | _ => false

def move (op : Op) (f : Flight) : Flight × Answer :=
  match op, f.phase with
  | .attempt _ result, .ready =>
    ({ f with attempts := f.attempts + 1, phase := f.after (f.attempts + 1) result },
      .sent f.rig.client (f.submission.errand f.destination))
  | .resume _ draw, .pausing => ({ f with phase := .ready }, .paused (f.pause draw))
  | _, _ => (f, .unknown)

def inForce (p : Params) (ops : List Op) : Params :=
  ops.foldl (fun p op => match op with
    | .replace q true => q
    | _ => p) p

theorem set_flight_self (h : s.flights[i]? = some f) :
    { s with flights := s.flights.set i f } = s := by
  obtain ⟨hi, rfl⟩ := List.getElem?_eq_some_iff.mp h
  rw [List.set_getElem_self]

theorem step_own (h : s.flights[i]? = some f) (ho : own i op = true) :
    step op s = ({ s with flights := s.flights.set i (move op f).1 }, (move op f).2) := by
  cases op with
  | attempt j result =>
    obtain rfl : j = i := by simpa [own] using ho
    cases hphase : f.phase <;> simp [step, move, h, hphase, set_flight_self h]
  | resume j draw =>
    obtain rfl : j = i := by simpa [own] using ho
    cases hphase : f.phase <;> simp [step, move, h, hphase, set_flight_self h]
  | _ => simp [own] at ho

theorem step_other (h : s.flights[i]? = some f) (ho : own i op = false) :
    (step op s).1.flights[i]? = some f := by
  cases op with
  | ask => exact h
  | replace p isBuildable => exact h
  | launch submission =>
    simp only [step]
    split
    · exact h
    · exact List.getElem?_append_left (List.getElem?_eq_some_iff.mp h).1 ▸ h
  | attempt j result =>
    have hne : j ≠ i := by simpa [own] using ho
    simp only [step]
    repeat' split
    all_goals simp [hne, h]
  | resume j draw =>
    have hne : j ≠ i := by simpa [own] using ho
    simp only [step]
    repeat' split
    all_goals simp [hne, h]

theorem getElem?_step_own (h : s.flights[i]? = some f) (ho : own i op = true) :
    (step op s).1.flights[i]? = some (move op f).1 := by
  rw [step_own h ho]
  exact List.getElem?_set_self (List.getElem?_eq_some_iff.mp h).1

theorem step_rig (p : Params) (h : s.rig = Rig.ofParams p) :
    (step op s).1.rig = Rig.ofParams (inForce p [op]) := by
  cases op with
  | ask => exact h
  | replace q isBuildable => cases isBuildable <;> simp [step, inForce, h]
  | launch submission =>
    simp only [step]
    split <;> exact h
  | attempt j result =>
    simp only [step]
    repeat' split
    all_goals exact h
  | resume j draw =>
    simp only [step]
    repeat' split
    all_goals exact h

/-! ## Runs -/

def log (ops : List Op) (s : Flights) : List (Op × Answer) := ops.zip (run ops s).2

theorem log_cons (ops : List Op) :
    log (op :: ops) s = (op, (step op s).2) :: log ops (step op s).1 := rfl

theorem run_rig (p : Params) (ops : List Op) (h : s.rig = Rig.ofParams p) :
    (run ops s).1.rig = Rig.ofParams (inForce p ops) := by
  induction ops generalizing p s with
  | nil => exact h
  | cons op ops ih => exact ih (inForce p [op]) (step_rig p h)

/-- Without the steps of others, a flight's own ones are answered the same. -/
theorem log_own (ops : List Op) (hs : s.flights[i]? = some f) (ht : t.flights[i]? = some f) :
    (log ops s).filter (fun e => own i e.1) = log (ops.filter (own i)) t := by
  induction ops generalizing s t f with
  | nil => rfl
  | cons op ops ih =>
    rw [log_cons]
    cases ho : own i op with
    | true =>
      rw [List.filter_cons_of_pos (by simpa using ho), List.filter_cons_of_pos ho, log_cons,
        ih (getElem?_step_own hs ho) (getElem?_step_own ht ho), step_own hs ho, step_own ht ho]
    | false =>
      rw [List.filter_cons_of_neg (by simp [ho]), List.filter_cons_of_neg (by simp [ho])]
      exact ih (step_other hs ho) ht

/-! ## What a flight has done -/

def met (i : Nat) (log : List (Op × Answer)) : List Result :=
  log.filterMap fun
    | (.attempt j result, .sent ..) => if j = i then some result else none
    | _ => none

def drawn (i : Nat) (log : List (Op × Answer)) : List Nat :=
  log.filterMap fun
    | (.resume j draw, .paused _) => if j = i then some draw else none
    | _ => none

def rested (i : Nat) (log : List (Op × Answer)) : List Span :=
  log.filterMap fun
    | (.resume j _, .paused pause) => if j = i then some pause else none
    | _ => none

theorem none_of_other (ho : own i op = false) (a : Answer) :
    met i [(op, a)] = [] ∧ drawn i [(op, a)] = [] ∧ rested i [(op, a)] = [] := by
  cases op with
  | attempt j result =>
    have hne : j ≠ i := by simpa [own] using ho
    cases a <;> simp [met, drawn, rested, hne]
  | resume j draw =>
    have hne : j ≠ i := by simpa [own] using ho
    cases a <;> simp [met, drawn, rested, hne]
  | _ => simp [met, drawn, rested]

def Open (p : Params) (m : Http.Method) (results : List Result) : Prop :=
  results.length < p.maxAttempts ∧ ∀ r ∈ results, r.mayRepeat m = true

def Stands (p : Params) (m : Http.Method) (results : List Result) (draws : List Nat) : Phase → Prop
  | .ready => draws.length = results.length ∧ Open p m results
  | .pausing => draws.length + 1 = results.length ∧ Open p m results
  | .landed o => ∃ before last, results = before ++ [last] ∧ draws.length = before.length ∧
      Open p m before ∧ (last.mayRepeat m = false ∨ results.length = p.maxAttempts) ∧
      o = last.outcome results.length

/-- A flight is where its attempts and pauses have brought it, under the record `p`. -/
structure Course (p : Params) (sub : Submission) (u : Url) (results : List Result)
    (draws : List Nat) (pauses : List Span) (f : Flight) : Prop where
  rig : f.rig = Rig.ofParams p
  submission : f.submission = sub
  destination : f.destination = u
  attempts : f.attempts = results.length
  pauses : pauses = draws.mapIdx fun n draw =>
    Backoff.delay (n + 1) p.flightInterval Backoff.cap draw
  phase : Stands p sub.method results draws f.phase

namespace Course

variable {p : Params} {sub : Submission} {u : Url} {results : List Result} {draws : List Nat}
  {pauses : List Span}

theorem start (p : Params) (sub : Submission) (u : Url) :
    Course p sub u [] [] [] { rig := Rig.ofParams p, submission := sub, destination := u } where
  rig := rfl
  submission := rfl
  destination := rfl
  attempts := rfl
  pauses := rfl
  phase := ⟨rfl, p.maxAttempts_bounds.1, by simp⟩

theorem attempt (h : Course p sub u results draws pauses f) (hf : f.phase = .ready) (r : Result) :
    Course p sub u (results ++ [r]) draws pauses
      { f with attempts := f.attempts + 1, phase := f.after (f.attempts + 1) r } where
  rig := h.rig
  submission := h.submission
  destination := h.destination
  attempts := by simp [h.attempts]
  pauses := h.pauses
  phase := by
    have hphase := h.phase
    rw [hf] at hphase
    obtain ⟨hdraws, hopen⟩ := hphase
    show Stands p sub.method (results ++ [r]) draws (f.after (f.attempts + 1) r)
    rw [Flight.after_eq, h.attempts, h.submission, h.rig, Rig.ofParams_params]
    by_cases hagain : results.length + 1 < p.maxAttempts ∧ r.mayRepeat sub.method = true
    · rw [if_pos hagain]
      refine ⟨by simp [hdraws], by simpa using hagain.1, ?_⟩
      intro r' hr'
      obtain hr' | rfl := List.mem_append.mp hr' |>.imp_right List.mem_singleton.mp
      · exact hopen.2 r' hr'
      · exact hagain.2
    · rw [if_neg hagain]
      refine ⟨results, r, rfl, hdraws, hopen, ?_, by simp⟩
      rw [List.length_append, List.length_singleton]
      -- A failure that may be repeated is the last one only where the limit is reached.
      by_cases hr : r.mayRepeat sub.method = true
      · have hlast : ¬ results.length + 1 < p.maxAttempts := fun hlt => hagain ⟨hlt, hr⟩
        have := hopen.1
        exact Or.inr (by omega)
      · exact Or.inl (by simpa using hr)

theorem resume (h : Course p sub u results draws pauses f) (hf : f.phase = .pausing) (draw : Nat) :
    Course p sub u results (draws ++ [draw]) (pauses ++ [f.pause draw])
      { f with phase := .ready } where
  rig := h.rig
  submission := h.submission
  destination := h.destination
  attempts := h.attempts
  pauses := by
    have hphase := h.phase
    rw [hf] at hphase
    rw [List.mapIdx_concat, ← h.pauses, Flight.pause, h.attempts, h.rig, ← hphase.1]
    rfl
  phase := by
    have hphase := h.phase
    rw [hf] at hphase
    exact ⟨by simpa using hphase.1, hphase.2⟩

theorem move (h : Course p sub u results draws pauses f) (ho : own i op = true) :
    Course p sub u (results ++ met i [(op, (move op f).2)]) (draws ++ drawn i [(op, (move op f).2)])
      (pauses ++ rested i [(op, (move op f).2)]) (move op f).1 := by
  cases op with
  | attempt j result =>
    obtain rfl : j = i := by simpa [own] using ho
    cases hf : f.phase with
    | ready => simpa [Flights.move, hf, met, drawn, rested] using h.attempt hf result
    | pausing => simpa [Flights.move, hf, met, drawn, rested] using h
    | landed o => simpa [Flights.move, hf, met, drawn, rested] using h
  | resume j draw =>
    obtain rfl : j = i := by simpa [own] using ho
    cases hf : f.phase with
    | ready => simpa [Flights.move, hf, met, drawn, rested] using h
    | pausing => simpa [Flights.move, hf, met, drawn, rested] using h.resume hf draw
    | landed o => simpa [Flights.move, hf, met, drawn, rested] using h
  | _ => simp [own] at ho

theorem step (h : Course p sub u results draws pauses f) (hs : s.flights[i]? = some f) (op : Op) :
    ∃ next, (step op s).1.flights[i]? = some next ∧
      Course p sub u (results ++ met i [(op, (step op s).2)])
        (draws ++ drawn i [(op, (step op s).2)])
        (pauses ++ rested i [(op, (step op s).2)]) next := by
  cases ho : own i op with
  | true => exact ⟨_, getElem?_step_own hs ho, by simpa only [step_own hs ho] using h.move ho⟩
  | false =>
    obtain ⟨hmet, hdrawn, hrested⟩ := none_of_other ho (Flights.step op s).2
    exact ⟨f, step_other hs ho, by simpa [hmet, hdrawn, hrested] using h⟩

theorem run (h : Course p sub u results draws pauses f) (hs : s.flights[i]? = some f)
    (ops : List Op) : ∃ f', (run ops s).1.flights[i]? = some f' ∧
      Course p sub u (results ++ met i (log ops s)) (draws ++ drawn i (log ops s))
        (pauses ++ rested i (log ops s)) f' := by
  induction ops generalizing s f results draws pauses with
  | nil => exact ⟨f, hs, by simpa [log, Flights.run, met, drawn, rested] using h⟩
  | cons op ops ih =>
    obtain ⟨next, hnext, hcourse⟩ := h.step hs op
    obtain ⟨f', hf', hlast⟩ := ih hcourse hnext
    refine ⟨f', hf', ?_⟩
    rw [log_cons, ← List.singleton_append]
    simpa only [met, drawn, rested, List.filterMap_append, List.append_assoc] using hlast

theorem sent (h : Course p sub u results draws pauses f) (hs : s.flights[i]? = some f)
    {ops : List Op} {result : Result} {client : Client} {errand : Except String Errand}
    (hsent : (.attempt i result, .sent client errand) ∈ log ops s) :
    client = Client.ofParams p ∧ errand = sub.errand u := by
  induction ops generalizing s f results draws pauses with
  | nil => simp [log, Flights.run] at hsent
  | cons op ops ih =>
    rw [log_cons] at hsent
    obtain hnow | hlater := List.mem_cons.mp hsent
    · obtain ⟨rfl, hanswer⟩ := Prod.mk.inj hnow
      rw [step_own hs (by simp [own])] at hanswer
      cases hf : f.phase with
      | ready =>
        simp only [Flights.move, hf] at hanswer
        obtain ⟨rfl, rfl⟩ := Answer.sent.inj hanswer
        simp [h.rig, h.submission, h.destination]
      | _ => simp [Flights.move, hf] at hanswer
    · obtain ⟨next, hnext, hcourse⟩ := h.step hs op
      exact ih hcourse hnext hlater

end Course

/-! ## The delivery that a flight makes -/

/-- How far a delivery is when so many attempts and pauses of it are over: on its way in the
first two phases, and at its outcome when the flight has landed. -/
def AsFarAs (d : Delivery) (attempts pauses : Nat) : Phase → Prop
  | .ready => pauses = attempts ∧ attempts < d.attempts.length
  | .pausing => pauses + 1 = attempts ∧ attempts < d.attempts.length
  | .landed o => pauses + 1 = attempts ∧ attempts = d.attempts.length ∧ o = d.outcome

section Delivered

variable {p : Params} {m : Http.Method} {results : List Result} {draws : List Nat}
  {peer : Nat → Attempt} {draw : Nat → Nat}

theorem mayRepeat_of_met (h : ∀ r ∈ results, r.mayRepeat m = true)
    (hp : results = (List.range' 1 results.length).map fun n => (peer n).result) {n : Nat}
    (hone : 1 ≤ n) (hle : n ≤ results.length) : (peer n).mayRepeat m = true := by
  apply h (peer n).result
  rw [hp]
  exact List.mem_map_of_mem (List.mem_range'_1.mpr ⟨hone, by omega⟩)

theorem open_continues (h : Open p m results)
    (hp : results = (List.range' 1 results.length).map fun n => (peer n).result) :
    results.length < (p.deliver m peer draw).attempts.length := by
  obtain ⟨-, ⟨⟨hone, hends⟩, -⟩, -⟩ := p.deliver_ending m peer draw
  by_contra hle
  obtain hlast | hlimit := (p.endsAt_iff m _ _).mp hends
  · simp [mayRepeat_of_met h.2 hp hone (by omega)] at hlast
  · have := h.1
    omega

theorem stands_delivers {phase : Phase} (h : Stands p m results draws phase)
    (hp : results = (List.range' 1 results.length).map fun n => (peer n).result) :
    AsFarAs (p.deliver m peer draw) results.length draws.length phase := by
  cases phase with
  | ready => exact ⟨h.1, open_continues h.2 hp⟩
  | pausing => exact ⟨h.1, open_continues h.2 hp⟩
  | landed o =>
    obtain ⟨before, last, rfl, hdraws, hopen, hend, rfl⟩ := h
    obtain ⟨-, hleast, houtcome⟩ := p.deliver_ending m peer draw
    have hlength : (before ++ [last]).length = before.length + 1 := List.length_append ..
    rw [hlength] at hp hend ⊢
    rw [List.range'_1_concat, List.map_append, Nat.add_comm 1] at hp
    obtain ⟨hbefore, hlast⟩ := List.append_inj' hp rfl
    have hlast : last = (peer (before.length + 1)).result := (List.cons.inj hlast).1
    rw [hlast] at hend ⊢
    -- Both are the first attempt that ends the delivery.
    have hk : before.length + 1 = (p.deliver m peer draw).attempts.length :=
      (p.isLeast_ending (Nat.le_add_left ..) hopen.1
        (fun i hone hlt => mayRepeat_of_met hopen.2 hbefore hone (by omega))
        ((p.endsAt_iff ..).mpr hend)).unique hleast
    exact ⟨by omega, hk, by rw [houtcome, ← hk]; rfl⟩

theorem AsFarAs.attempts_le {d : Delivery} {attempts pauses : Nat} {phase : Phase}
    (h : AsFarAs d attempts pauses phase) : attempts ≤ d.attempts.length ∧
      pauses ≤ d.attempts.length - 1 := by
  cases phase with
  | ready =>
    obtain ⟨hpauses, hattempts⟩ := h
    omega
  | pausing =>
    obtain ⟨hpauses, hattempts⟩ := h
    omega
  | landed o =>
    obtain ⟨hpauses, hattempts, -⟩ := h
    omega

theorem range_begins {a b : Nat} (h : a ≤ b) : List.range' 1 a <+: List.range' 1 b := by
  obtain ⟨n, rfl⟩ := Nat.exists_eq_add_of_le h
  rw [← List.range'_append_1]
  exact List.prefix_append ..

theorem met_begins {attempts : Nat} (h : attempts ≤ (p.deliver m peer draw).attempts.length) :
    (List.range' 1 attempts).map (fun n => (peer n).result) <+:
      (p.deliver m peer draw).attempts.map Attempt.result := by
  obtain ⟨hattempts, -⟩ := p.deliver_ending m peer draw
  rw [hattempts, List.map_map]
  exact (range_begins h).map _

theorem rested_begins {pauses : Nat} (h : pauses ≤ (p.deliver m peer draw).attempts.length - 1) :
    (((List.range' 1 pauses).map draw).mapIdx fun n draw =>
      Backoff.delay (n + 1) p.flightInterval Backoff.cap draw) <+:
      (p.deliver m peer draw).pauses := by
  have hdelays : (((List.range' 1 pauses).map draw).mapIdx fun n draw =>
      Backoff.delay (n + 1) p.flightInterval Backoff.cap draw) =
      (List.range' 1 pauses).map fun i =>
        Backoff.delay i p.flightInterval Backoff.cap (draw i) := by
    apply List.ext_getElem
    · simp
    · intro i hi hi'
      simp [Nat.add_comm]
  rw [hdelays, Params.deliver, Delivery.run_pauses]
  exact (range_begins h).map _

end Delivered

/-! ## Runs with launches and replacements -/

theorem step_launch {sub : Submission} {u : Url} (h : sub.destination = .ok u) :
    step (.launch sub) s =
      ({ s with flights := s.flights ++ [{ rig := s.rig, submission := sub, destination := u }] },
        .launched s.flights.length) := by
  simp only [step, h]

/-- In every state of a run the client in force is built from the record in force, the last one
that a client could be built from, and that record is what is told; a replacement that fails
leaves everything. A flight launched there goes its way as that record says, whatever else the
run goes on with: by its client, with one request, and as far as the delivery under that record
that meets the same and draws the same. Its steps are answered as they are without the others. -/
theorem run_isolated (p₀ : Params) (ops : List Op) :
    let s := (run ops { rig := Rig.ofParams p₀ }).1
    let p := inForce p₀ ops
    s.rig = Rig.ofParams p ∧
    step .ask s = (s, .params p) ∧
    (∀ q, step (.replace q false) s = (s, .params p)) ∧
    ∀ (sub : Submission) (u : Url), sub.destination = .ok u → ∀ later : List Op,
      let i := s.flights.length
      let launched := (step (.launch sub) s).1
      let log := log later launched
      (step (.launch sub) s).2 = .launched i ∧
      log.filter (fun e => own i e.1) = Flights.log (later.filter (own i)) launched ∧
      (∀ result client errand, (.attempt i result, .sent client errand) ∈ log →
        client = Client.ofParams p ∧ errand = sub.errand u) ∧
      ∃ f, (run later launched).1.flights[i]? = some f ∧ f.attempts = (met i log).length ∧
        ∀ (peer : Nat → Attempt) (draw : Nat → Nat),
          met i log = (List.range' 1 (met i log).length).map (fun n => (peer n).result) →
          drawn i log = (List.range' 1 (drawn i log).length).map draw →
          let d := p.deliver sub.method peer draw
          met i log <+: d.attempts.map Attempt.result ∧ rested i log <+: d.pauses ∧
          AsFarAs d (met i log).length (rested i log).length f.phase := by
  intro s p
  have hrig : s.rig = Rig.ofParams p := run_rig p₀ ops rfl
  have htold : (s, Answer.params s.rig.params) = (s, .params p) := by
    rw [hrig, Rig.ofParams_params]
  refine ⟨hrig, htold, fun q => htold, ?_⟩
  intro sub u hdestination later i launched log
  have hlaunch := step_launch (s := s) hdestination
  have hflight : launched.flights[i]? =
      some { rig := Rig.ofParams p, submission := sub, destination := u } := by
    simp [launched, i, hlaunch, hrig]
  have hstart := Course.start p sub u
  obtain ⟨f, hf, hcourse⟩ := hstart.run hflight later
  refine ⟨by rw [hlaunch], log_own later hflight hflight,
    fun result client errand => hstart.sent hflight, f, hf, hcourse.attempts, ?_⟩
  intro peer draw hmet hdrawn d
  have hrested : rested i log = (drawn i log).mapIdx fun n draw =>
      Backoff.delay (n + 1) p.flightInterval Backoff.cap draw := hcourse.pauses
  have hlength : (rested i log).length = (drawn i log).length := by
    rw [hrested, List.length_mapIdx]
  have hfar : AsFarAs d (met i log).length (rested i log).length f.phase := by
    rw [hlength]
    exact stands_delivers hcourse.phase hmet
  obtain ⟨hattempts, hpauses⟩ := hfar.attempts_le
  refine ⟨?_, ?_, hfar⟩
  · rw [hmet]
    exact met_begins hattempts
  · rw [hrested, hdrawn]
    exact rested_begins (hlength ▸ hpauses)

/-- A replacement between two attempts is in force at the end, and the second attempt is still
made by the first client. -/
theorem second_attempt_keeps_client :
    ∃ (sub : Submission) (u : Url), sub.destination = .ok u ∧
      let launched := (step (.launch sub) { rig := Rig.ofParams {} }).1
      let later : List Op := [.attempt 0 (.error (.timeout, "")),
        .replace { insecureSkipVerify := true } true, .resume 0 0, .attempt 0 (.ok ⟨200, []⟩)]
      (run later launched).1.rig.client ≠ Client.ofParams {} ∧
      ∀ result client errand, (.attempt 0 result, .sent client errand) ∈ log later launched →
        client = Client.ofParams {} ∧ errand = sub.errand u := by
  let uri : Http.Uri := { rawPath := "/_matrix/client/versions".toList }
  let b : Bridge := ⟨Homeserver.localhost "localhost:8448" 8448, 0, 0⟩
  have hh : Homeserver.parse "localhost:8448" = .ok b.homeserver :=
    Homeserver.parse_localhost (by decide) rfl rfl rfl
  have huri : Http.Uri.parse (Bytes.ofString "/_matrix/client/versions") = .ok uri := by
    decide +kernel
  have hu := Bridge.destination_dialable (r := { method := .get, uri }) [] hh
    (Http.Uri.parse_shaped huri) (Homeserver.isDialable_localhost "8448".toList rfl (by decide))
    (by decide)
  refine ⟨_, _, hu, ?_, ?_⟩
  · rw [run_rig {} _ (step_rig {} rfl), Rig.ofParams_client]
    decide
  · obtain ⟨-, -, -, hflight⟩ := run_isolated {} []
    obtain ⟨-, -, hsent, -⟩ := hflight _ _ hu _
    exact hsent

end Flights

end MatrixGateway.Transport
