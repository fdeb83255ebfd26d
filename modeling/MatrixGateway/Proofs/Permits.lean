import MatrixGateway.Net.Acceptor
import MatrixGateway.Proofs.AcceptLoop

/-!
# Where the permits and the clients are

Every permit is free, in the hand of the accept under way or held by an
accepted connection, and the clients leave the queue from its front. An
accept with its waits is followed by looking past the accept under way, at
what is left when that is given up: there each step is one of an admission
without waits, or none.
-/

set_option autoImplicit false

namespace MatrixGateway

/-! ## Admission without waits -/

namespace Admission

variable {a : Admission} {limit clients : Nat}

structure Accounts (limit clients : Nat) (a : Admission) : Prop where
  permits : a.available + a.held = limit
  connected : a.connected = clients
  queue : a.accepted.map (·.1) ++ a.waiting = List.range clients

theorem accounts_open {max : UInt64} (h : open? max = some a) : Accounts max.toNat 0 a := by
  unfold open? at h
  split at h
  · obtain rfl := Option.some.inj h
    exact ⟨rfl, rfl, rfl⟩
  · contradiction

theorem step_release_held {i client : Nat} (h : a.accepted[i]? = some (client, true)) :
    step (.release i) a = ({ a with
      available := a.available + 1
      accepted := a.accepted.set i (client, false) }, .released true) := by
  simp only [step, h]

theorem step_release_other {i : Nat} (h : ∀ client, a.accepted[i]? ≠ some (client, true)) :
    step (.release i) a = (a, .released false) := by
  unfold step
  dsimp only
  split
  · rename_i client hentry
    exact absurd hentry (h client)
  · rfl

theorem Accounts.step (h : Accounts limit clients a) (op : Op) :
    Accounts limit (clients + if op = .connect then 1 else 0) (step op a).1 := by
  cases op with
  | connect =>
    exact {
      permits := h.permits
      connected := congrArg (· + 1) h.connected
      queue := by
        simp only [Admission.step, ← List.append_assoc, h.queue, h.connected]
        exact List.range_succ.symm }
  | accept =>
    rw [if_neg (by decide), Nat.add_zero]
    unfold Admission.step
    dsimp only
    split
    · rename_i free client rest hfree hwaiting
      exact {
        permits := by
          have hpermits := h.permits
          simp only [held, hfree] at hpermits ⊢
          simp
          omega
        connected := h.connected
        queue := by simpa [hwaiting] using h.queue }
    · exact h
  | release i =>
    rw [if_neg (by simp), Nat.add_zero]
    by_cases hheld : ∃ client, a.accepted[i]? = some (client, true)
    · obtain ⟨client, hentry⟩ := hheld
      have hless := held_release hentry
      have hclients := clients_release a i
      rw [step_release_held hentry] at hless hclients ⊢
      exact {
        permits := by
          have hpermits := h.permits
          dsimp only at hless ⊢
          omega
        connected := h.connected
        queue := by
          rw [hclients]
          exact h.queue }
    · rw [step_release_other fun client hentry => hheld ⟨client, hentry⟩]
      exact h

theorem entry_step {i client : Nat} {isHeld : Bool} (h : a.accepted[i]? = some (client, isHeld))
    (op : Op) : (step op a).1.accepted[i]? = some (client, isHeld && op ≠ .release i) := by
  obtain ⟨hi, -⟩ := List.getElem?_eq_some_iff.mp h
  cases op with
  | connect => simpa [step] using h
  | accept =>
    unfold step
    dsimp only
    split
    · simpa [List.getElem?_append_left hi] using h
    · simpa using h
  | release j =>
    unfold step
    dsimp only
    by_cases hij : j = i
    · subst hij
      split
      · rename_i other hentry
        obtain rfl : client = other := by simp_all
        simp [List.getElem?_set_self hi]
      · rename_i hother
        cases isHeld with
        | true => exact absurd h (hother client)
        | false => simpa using h
    · split
      · simpa [List.getElem?_set_ne hij, hij] using h
      · simpa [hij] using h

theorem accept_none_iff (a : Admission) :
    (step .accept a).2 = .accepted none ↔ a.available = 0 ∨ a.waiting = [] := by
  obtain ⟨available, waiting, connected, accepted⟩ := a
  cases available <;> cases waiting <;> simp [step]

theorem accept_none (h : (step .accept a).2 = .accepted none) : (step .accept a).1 = a := by
  obtain ⟨available, waiting, connected, accepted⟩ := a
  cases available with
  | zero => rfl
  | succ free =>
    cases waiting with
    | nil => rfl
    | cons client rest => simp [step] at h

theorem accept_some {op : Op} {client : Nat} (h : (step op a).2 = .accepted (some client)) :
    (step op a).1.accepted = a.accepted ++ [(client, true)] := by
  obtain ⟨available, waiting, connected, accepted⟩ := a
  cases op with
  | connect => simp [step] at h
  | accept =>
    cases available with
    | zero => simp [step] at h
    | succ free =>
      cases waiting with
      | nil => simp [step] at h
      | cons first rest =>
        obtain rfl : first = client := by simpa [step] using h
        rfl
  | release i =>
    unfold step at h
    dsimp only at h
    split at h <;> simp at h

end Admission

/-! ## Past the accept under way -/

namespace Acceptor

variable {a : Acceptor}

def settled (a : Acceptor) : Admission :=
  { a.toAdmission with available := a.available + a.inHand }

theorem giveUp_eq (a : Acceptor) : a.giveUp = opened a.settled := by
  obtain ⟨admission, wait⟩ := a
  cases wait <;> rfl

theorem giveUp_idle (h : a.wait = .idle) : a.giveUp = a := by
  obtain ⟨admission, wait⟩ := a
  obtain rfl : wait = .idle := h
  rfl

@[simp] theorem settled_accepted (a : Acceptor) : a.settled.accepted = a.accepted := rfl

@[simp] theorem settled_waiting (a : Acceptor) : a.settled.waiting = a.waiting := rfl

def IsFair (a : Acceptor) : Prop := a.wait = .forPermit → a.available = 0

theorem isFair_opened (admission : Admission) : (opened admission).IsFair := nofun

/-- What a step is without the waits; an accept that gets nowhere is one that finds nothing. -/
def Op.whole? : Op → Option Admission.Op
  | .connect => some .connect
  | .poll | .accept => some .accept
  | .giveUp => none
  | .release index => some (.release index)

theorem poll_settled (h : a.IsFair) : a.poll.1.IsFair ∧
    a.poll.1.settled = (Admission.step .accept a.settled).1 ∧
    .accepted a.poll.2 = (Admission.step .accept a.settled).2 := by
  obtain ⟨⟨available, waiting, connected, accepted⟩, wait⟩ := a
  cases wait with
  | idle =>
    cases available with
    | zero => exact ⟨fun _ => rfl, rfl, rfl⟩
    | succ free => cases waiting <;> exact ⟨nofun, rfl, rfl⟩
  | forPermit =>
    obtain rfl : available = 0 := h rfl
    exact ⟨h, rfl, rfl⟩
  | granted | forClient => cases waiting <;> exact ⟨nofun, rfl, rfl⟩

theorem release_settled (h : a.IsFair) (i : Nat) : (a.release i).1.IsFair ∧
    (a.release i).1.settled = (Admission.step (.release i) a.settled).1 ∧
    (a.release i).2 = (Admission.step (.release i) a.settled).2 := by
  obtain ⟨admission, wait⟩ := a
  unfold release
  dsimp only
  by_cases hheld : ∃ client, admission.accepted[i]? = some (client, true)
  · obtain ⟨client, hentry⟩ := hheld
    rw [Admission.step_release_held (a := settled ⟨admission, wait⟩) hentry,
      Admission.step_release_held hentry]
    cases wait with
    | forPermit => exact ⟨nofun, rfl, rfl⟩
    | idle | granted | forClient => exact ⟨nofun, rfl, rfl⟩
  · have hother := fun client hentry => hheld ⟨client, hentry⟩
    rw [Admission.step_release_other (a := settled ⟨admission, wait⟩) hother,
      Admission.step_release_other hother, if_neg (by simp)]
    exact ⟨h, rfl, rfl⟩

/-- Past the accept under way, each step is the one without waits, with its answer. -/
theorem step_settled (h : a.IsFair) (op : Op) : (step op a).1.IsFair ∧
    match op.whole? with
    | some whole =>
      (step op a).1.settled = (Admission.step whole a.settled).1 ∧
        (step op a).2 = (Admission.step whole a.settled).2
    | none => (step op a).1.settled = a.settled := by
  cases op with
  | connect => exact ⟨h, rfl, rfl⟩
  | poll => exact poll_settled h
  | giveUp =>
    rw [step, giveUp_eq]
    exact ⟨isFair_opened _, rfl⟩
  | accept =>
    rw [step, giveUp_eq]
    exact ⟨isFair_opened _, (poll_settled h).2⟩
  | release i => exact release_settled h i

theorem step_idle (h : a.wait = .idle) {op : Op} (hop : op ≠ .poll) :
    (step op a).1.wait = .idle := by
  cases op with
  | connect => exact h
  | poll => contradiction
  | giveUp =>
    rw [step, giveUp_eq]
    rfl
  | accept =>
    rw [step, giveUp_eq]
    rfl
  | release i =>
    simp [step, release, h]

/-! ## Accepts that do not wait -/

/-- An accept is given up where it would have to wait. -/
def Op.ofWhole : Admission.Op → Op
  | .connect => .connect
  | .accept => .accept
  | .release index => .release index

theorem step_ofWhole (op : Admission.Op) (admission : Admission) :
    step (Op.ofWhole op) (opened admission) =
      (opened (Admission.step op admission).1, (Admission.step op admission).2) := by
  have hwhole : (Op.ofWhole op).whole? = some op := by cases op <;> rfl
  have hpoll : Op.ofWhole op ≠ .poll := by cases op <;> nofun
  have hsettled := (step_settled (isFair_opened admission) (Op.ofWhole op)).2
  rw [hwhole] at hsettled
  have hidle := giveUp_idle (step_idle (a := opened admission) rfl hpoll)
  rw [giveUp_eq, hsettled.1] at hidle
  exact Prod.ext hidle.symm hsettled.2

theorem run_ofWhole (ops : List Admission.Op) (admission : Admission) :
    run (ops.map Op.ofWhole) (opened admission) = Admission.run ops admission := by
  induction ops generalizing admission with
  | nil => rfl
  | cons op ops ih =>
    rw [List.map_cons, run, step_ofWhole, ih]
    rfl

/-! ## Runs -/

theorem step_accounts {limit clients : Nat} (hfair : a.IsFair)
    (h : Admission.Accounts limit clients a.settled) (op : Op) :
    Admission.Accounts limit (clients + if op = .connect then 1 else 0) (step op a).1.settled := by
  have hsettled := (step_settled hfair op).2
  cases op with
  | connect => exact hsettled.1 ▸ h.step .connect
  | poll | accept => exact hsettled.1 ▸ h.step .accept
  | giveUp => exact hsettled ▸ h
  | release i => exact hsettled.1 ▸ h.step (.release i)

theorem after_isFair (h : a.IsFair) (ops : List Op) : (after ops a).IsFair := by
  induction ops generalizing a with
  | nil => exact h
  | cons op ops ih => exact ih (step_settled h op).1

theorem after_accounts {limit clients : Nat} (hfair : a.IsFair)
    (h : Admission.Accounts limit clients a.settled) (ops : List Op) :
    Admission.Accounts limit (clients + ops.count .connect) (after ops a).settled := by
  induction ops generalizing a clients with
  | nil => exact h
  | cons op ops ih =>
    have hrest := ih (step_settled hfair op).1 (step_accounts hfair h op)
    rw [List.count_cons, Nat.add_comm (ops.count _), ← Nat.add_assoc]
    simpa [after] using hrest

theorem after_idle (h : a.wait = .idle) {ops : List Op} (hops : .poll ∉ ops) :
    (after ops a).wait = .idle := by
  induction ops generalizing a with
  | nil => exact h
  | cons op ops ih =>
    rw [List.mem_cons, not_or] at hops
    exact ih (step_idle h (Ne.symm hops.1)) hops.2

theorem entry_step {i client : Nat} {isHeld : Bool} (hfair : a.IsFair)
    (h : a.accepted[i]? = some (client, isHeld)) (op : Op) :
    (step op a).1.accepted[i]? = some (client, isHeld && op ≠ .release i) := by
  have hsettled := (step_settled hfair op).2
  rw [← settled_accepted (step op a).1]
  cases op with
  | giveUp =>
    rw [hsettled]
    simpa using h
  | connect | poll | accept | release =>
    rw [hsettled.1, Admission.entry_step (a := a.settled) h]
    simp

theorem entry_after {i client : Nat} {isHeld : Bool} (hfair : a.IsFair)
    (h : a.accepted[i]? = some (client, isHeld)) (ops : List Op) :
    (after ops a).accepted[i]? = some (client, isHeld && .release i ∉ ops) := by
  induction ops generalizing a isHeld with
  | nil => simpa [after] using h
  | cons op ops ih =>
    have hrest := ih (step_settled hfair op).1 (entry_step hfair h op)
    simpa [after, Bool.and_assoc, eq_comm] using hrest

theorem accepted_entry {op : Op} {client : Nat} (hfair : a.IsFair)
    (h : (step op a).2 = .accepted (some client)) :
    (step op a).1.accepted[a.accepted.length]? = some (client, true) := by
  have hsettled := (step_settled hfair op).2
  have hentry : (step op a).1.settled.accepted = a.settled.accepted ++ [(client, true)] := by
    cases op with
    | giveUp => simp [step] at h
    | connect | poll | accept | release =>
      rw [hsettled.1]
      exact Admission.accept_some (hsettled.2 ▸ h)
  simp only [settled_accepted] at hentry
  simp [hentry]

theorem release_answer {i client : Nat} {isHeld : Bool} (hfair : a.IsFair)
    (h : a.accepted[i]? = some (client, isHeld)) :
    (step (.release i) a).2 = .released isHeld := by
  rw [(step_settled hfair (.release i)).2.2]
  cases isHeld with
  | true => rw [Admission.step_release_held (a := a.settled) h]
  | false =>
    rw [Admission.step_release_other (a := a.settled) fun other hother => by simp_all]

theorem release_frees (hfair : a.IsFair) (i : Nat) :
    ((step (.release i) a).2 = .released true ∧
      (step (.release i) a).1.held + 1 = a.held ∧
      (step (.release i) a).1.available + (step (.release i) a).1.inHand =
        a.available + a.inHand + 1) ∨
    step (.release i) a = (a, .released false) := by
  by_cases hheld : ∃ client, a.accepted[i]? = some (client, true)
  · obtain ⟨client, hentry⟩ := hheld
    obtain ⟨-, hsettled, hanswer⟩ := step_settled hfair (.release i)
    have hless := Admission.held_release (a := a.settled) hentry
    have hmore := congrArg Admission.available hsettled
    rw [Admission.step_release_held (a := a.settled) hentry] at hanswer hmore
    rw [← hsettled] at hless
    exact Or.inl ⟨hanswer, hless, hmore⟩
  · refine Or.inr ?_
    unfold step release
    dsimp only
    rw [Admission.step_release_other fun client hentry => hheld ⟨client, hentry⟩,
      if_neg (by simp)]

/-- Whatever the order of connections, accepts, waits and releases: the permits free, in the hand
of the accept under way and held are as many as there are, and the clients accepted and those that
wait are all that have connected, in their order. An accept that is given up if it has to wait
yields nothing exactly if no permit or no client is there for it, and changes nothing then; and of
the releases of an accepted connection exactly the first one frees one permit. -/
theorem permits_accounted {max : UInt64} (hmax : max.toNat ≤ Admission.maxPermits) :
    ∃ admission, Admission.open? max = some admission ∧ ∀ ops,
      let a := after ops (opened admission)
      a.available + a.inHand + a.held = max.toNat ∧
      a.accepted.map (·.1) ++ a.waiting = List.range (ops.count .connect) ∧
      (.poll ∉ ops → a.inHand = 0 ∧ a.giveUp = a) ∧
      ((step .accept a).2 = .accepted none ↔ a.available + a.inHand = 0 ∨ a.waiting = []) ∧
      ((step .accept a).2 = .accepted none → (step .accept a).1 = a.giveUp) ∧
      (∀ i, ((step (.release i) a).2 = .released true ∧
          (step (.release i) a).1.held + 1 = a.held ∧
          (step (.release i) a).1.available + (step (.release i) a).1.inHand =
            a.available + a.inHand + 1) ∨ step (.release i) a = (a, .released false)) ∧
      ∀ op client, (step op a).2 = .accepted (some client) → ∀ later,
        (step (.release a.accepted.length) (after later (step op a).1)).2 =
          .released (.release a.accepted.length ∉ later) := by
  have hopen : Admission.open? max = some { available := max.toNat } := if_pos hmax
  refine ⟨_, hopen, fun ops => ?_⟩
  intro a
  have hstart : Admission.Accounts max.toNat 0 (opened { available := max.toNat }).settled :=
    Admission.accounts_open hopen
  have hfair : a.IsFair := after_isFair (isFair_opened _) ops
  have haccounts := after_accounts (isFair_opened _) hstart ops
  have hpoll := (poll_settled hfair).2
  refine ⟨haccounts.permits, ?_, fun hops => ?_, ?_, fun hnone => ?_, release_frees hfair, ?_⟩
  · simpa using haccounts.queue
  · have hidle : a.wait = .idle := after_idle rfl hops
    exact ⟨by rw [inHand, hidle], giveUp_idle hidle⟩
  · rw [step, hpoll.2, Admission.accept_none_iff]
    rfl
  · rw [step, hpoll.2] at hnone
    rw [step, giveUp_eq, giveUp_eq, hpoll.1, Admission.accept_none hnone]
  · intro op client haccepted later
    have hfairer := (step_settled hfair op).1
    have hentry := entry_after hfairer (accepted_entry hfair haccepted) later
    exact release_answer (after_isFair hfairer later) hentry

/-- One permit and two clients: an accept waits for the permit, gets it when the first connection
lets it go, and is given up before it has noticed. -/
theorem permits_accounted_single_permit :
    let ops : List Op := [.connect, .connect, .poll, .poll, .release 0, .giveUp]
    (1 : UInt64).toNat ≤ Admission.maxPermits ∧
    ∃ admission, Admission.open? 1 = some admission ∧
      (after ops (opened admission)).available = 1 ∧
      (after ops (opened admission)).waiting = [1] := by
  intro ops
  have hmax : (1 : UInt64).toNat ≤ Admission.maxPermits := by decide
  obtain ⟨admission, hopen, haccounts⟩ := permits_accounted hmax
  obtain ⟨hpermits, hqueue, -⟩ := haccounts ops
  obtain rfl : { available := 1 } = admission := Option.some.inj hopen
  exact ⟨hmax, _, hopen, hpermits, List.append_cancel_left hqueue⟩

end Acceptor

end MatrixGateway
