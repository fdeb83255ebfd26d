import Mathlib.Algebra.Ring.Nat
import Mathlib.Data.List.Induction
import MatrixGateway.Net.Broadcast
import MatrixGateway.Proofs.Histories

/-!
# What the subscribers are told of the shutdown

To a subscriber the channel is one number, the events pending for it. What it
is told and what is left pending depend on nothing but the triggers and its
own receives since it subscribed, and none of those triggers is lost to it: it
is fired, counted as missed, or pending.
-/

set_option autoImplicit false

namespace MatrixGateway

namespace Shutdown

def Reception.missed : Reception → Nat
  | .lagged missed => missed
  | .fired | .empty => 0

/-! ## One subscriber -/

def take : Nat → Reception × Nat
  | 0 => (.empty, 0)
  | 1 => (.fired, 0)
  | pending + 2 => (.lagged (pending + 1), 1)

theorem take_le (pending : Nat) : (take pending).2 ≤ pending := by
  fun_cases take pending <;> simp

theorem take_empty_iff (pending : Nat) : (take pending).1 = .empty ↔ pending = 0 := by
  fun_cases take pending <;> simp

theorem take_conserved (pending : Nat) :
    pending = [(take pending).1].count .fired + (take pending).1.missed + (take pending).2 := by
  fun_cases take pending <;> simp [Reception.missed]

theorem receive_eq {triggered cursor : Nat} (h : cursor ≤ triggered) :
    receive triggered cursor =
      ((take (triggered - cursor)).1, triggered - (take (triggered - cursor)).2) := by
  obtain ⟨pending, rfl⟩ := Nat.exists_eq_add_of_le h
  rw [Nat.add_sub_cancel_left]
  unfold receive
  fun_cases take pending with
  | case1 => simp
  | case2 => simp
  | case3 pending =>
    rw [if_neg (by omega), if_neg (by omega)]
    simp

/-- What a step tells a subscriber with so many events pending, and what is pending then. -/
def heed (i : Nat) (op : Op) (pending : Nat) : Option Reception × Nat :=
  match op with
  | .subscribe => (none, pending)
  | .trigger => (none, pending + 1)
  | .recv j => if j = i then (some (take pending).1, (take pending).2) else (none, pending)

theorem le_heed {i : Nat} {op : Op} (h : op ≠ .recv i) (pending : Nat) :
    pending ≤ (heed i op pending).2 := by
  cases op with
  | subscribe => exact Nat.le_refl _
  | trigger => exact Nat.le_succ _
  | recv j => simp [heed, show j ≠ i by simpa using h]

def heard (i : Nat) (since : List Op) : List Reception × Nat :=
  since.foldl (fun (told, pending) op =>
    (told ++ (heed i op pending).1.toList, (heed i op pending).2)) ([], 0)

theorem heard_concat (i : Nat) (since : List Op) (op : Op) :
    heard i (since ++ [op]) =
      ((heard i since).1 ++ (heed i op (heard i since).2).1.toList,
        (heed i op (heard i since).2).2) := by
  unfold heard
  rw [List.foldl_append]
  rfl

theorem heard_trigger (i : Nat) (since : List Op) {later : List Op} (h : .recv i ∉ later) :
    0 < (heard i (since ++ .trigger :: later)).2 := by
  induction later using List.reverseRecOn with
  | nil =>
    rw [heard_concat]
    exact Nat.succ_pos _
  | append_singleton later op ih =>
    rw [List.mem_append, not_or, List.mem_singleton] at h
    rw [← List.cons_append, ← List.append_assoc, heard_concat]
    exact Nat.lt_of_lt_of_le (ih h.1) (le_heed (Ne.symm h.2) _)

theorem heard_conserved (i : Nat) (since : List Op) :
    since.count .trigger = (heard i since).1.count .fired +
      ((heard i since).1.map (·.missed)).sum + (heard i since).2 := by
  induction since using List.reverseRecOn with
  | nil => rfl
  | append_singleton since op ih =>
    rw [heard_concat, List.count_append, ih]
    cases op with
    | subscribe => simp [heed]
    | trigger =>
      simp [heed]
      omega
    | recv j =>
      by_cases hj : j = i
      · have htake := take_conserved (heard i since).2
        simp [heed, hj] at htake ⊢
        omega
      · simp [heed, hj]

def Op.concerns (i : Nat) : Op → Bool
  | .subscribe => false
  | .trigger => true
  | .recv j => j = i

theorem heed_other {i : Nat} {op : Op} (h : op.concerns i = false) (pending : Nat) :
    heed i op pending = (none, pending) := by
  cases op with
  | subscribe => rfl
  | trigger => contradiction
  | recv j => exact if_neg (by simpa [Op.concerns] using h)

theorem heard_concerns (i : Nat) (since : List Op) :
    heard i (since.filter (·.concerns i)) = heard i since := by
  induction since using List.reverseRecOn with
  | nil => rfl
  | append_singleton since op ih =>
    rw [List.filter_append, heard_concat, ← ih]
    cases hop : op.concerns i with
    | true => simp [hop, heard_concat]
    | false => simp [hop, heed_other hop]

end Shutdown

/-! ## All subscribers -/

namespace Broadcast

open History Shutdown

variable {b : Broadcast} {ops : List Op} {i : Nat}

def pending (i : Nat) (b : Broadcast) : Nat :=
  match b.cursors[i]? with
  | some cursor => b.triggered - cursor
  | none => 0

theorem pending_le (i : Nat) (b : Broadcast) : pending i b ≤ b.triggered := by
  unfold pending
  split
  · exact Nat.sub_le _ _
  · exact Nat.zero_le _

theorem pending_set (hi : i < b.cursors.length) (cursor : Nat) :
    pending i { b with cursors := b.cursors.set i cursor } = b.triggered - cursor := by
  simp [pending, hi]

def reception? (i : Nat) : Op × Answer → Option Reception
  | (.recv j, .given (.received r)) => if j = i then some r else none
  | _ => none

def receptions (i : Nat) (ops : List Op) : List Reception :=
  (ops.zip (run ops {})).filterMap (reception? i)

theorem after_append (ops more : List Op) (b : Broadcast) :
    after (ops ++ more) b = after more (after ops b) :=
  List.foldl_append

theorem after_concat (ops : List Op) (op : Op) (b : Broadcast) :
    after (ops ++ [op]) b = (step op (after ops b)).1 := by
  simp [after]

theorem length_run (ops : List Op) (b : Broadcast) : (run ops b).length = ops.length := by
  induction ops generalizing b with
  | nil => rfl
  | cons op ops ih => simp [run, ih]

theorem run_concat (ops : List Op) (op : Op) (b : Broadcast) :
    run (ops ++ [op]) b = run ops b ++ [(step op (after ops b)).2] := by
  induction ops generalizing b with
  | nil => rfl
  | cons op ops ih => simp [run, ih, after]

theorem receptions_concat (i : Nat) (ops : List Op) (op : Op) :
    receptions i (ops ++ [op]) =
      receptions i ops ++ (reception? i (op, (step op (after ops {})).2)).toList := by
  unfold receptions
  rw [run_concat, List.zip_append (length_run ops {}).symm, List.filterMap_append]
  cases h : reception? i (op, (step op (after ops {})).2) <;> simp [h]

structure Behind (b : Broadcast) : Prop where
  isOpen : b.isOpen = true
  cursors : ∀ cursor ∈ b.cursors, cursor ≤ b.triggered

theorem behind_start : Behind {} := ⟨rfl, nofun⟩

namespace Behind

theorem step_recv (h : b.Behind) (hi : i < b.cursors.length) :
    step (.recv i) b =
      ({ b with cursors := b.cursors.set i (b.triggered - (take (pending i b)).2) },
        .given (.received (take (pending i b)).1)) := by
  have hcursor : b.cursors[i]? = some b.cursors[i] := List.getElem?_eq_getElem hi
  have hle := h.cursors _ (List.getElem_mem hi)
  simp only [step, Shutdown.step, pending, hcursor, receive_eq hle, h.isOpen]
  simp

theorem step_unknown (hi : b.cursors.length ≤ i) :
    step (.recv i) b = (b, .given .unknown) := by
  simp [step, Shutdown.step, List.getElem?_eq_none hi]

theorem step (h : b.Behind) (op : Op) : (step op b).1.Behind := by
  obtain ⟨⟨triggered, cursors⟩, isOpen⟩ := b
  obtain rfl : isOpen = true := h.isOpen
  cases op with
  | subscribe =>
    refine ⟨rfl, fun cursor hcursor => ?_⟩
    rcases List.mem_append.mp hcursor with hold | hnew
    · exact h.cursors cursor hold
    · exact Nat.le_of_eq (List.mem_singleton.mp hnew)
  | trigger =>
    simp only [Broadcast.step, if_true]
    split
    · exact h
    · exact ⟨rfl, fun cursor hcursor => Nat.le_succ_of_le (h.cursors cursor hcursor)⟩
  | recv i =>
    rcases Nat.lt_or_ge i cursors.length with hi | hi
    · rw [h.step_recv hi]
      refine ⟨rfl, fun cursor hcursor => ?_⟩
      rcases List.mem_or_eq_of_mem_set hcursor with hold | rfl
      · exact h.cursors cursor hold
      · exact Nat.sub_le _ _
    · rw [step_unknown hi]
      exact h

theorem length_step (h : b.Behind) (op : Op) :
    (Broadcast.step op b).1.cursors.length =
      b.cursors.length + if op = .subscribe then 1 else 0 := by
  have hopen := h.isOpen
  cases op with
  | subscribe => simp [Broadcast.step, Shutdown.step, hopen]
  | trigger =>
    simp only [Broadcast.step, hopen, if_true]
    split <;> simp [Shutdown.step]
  | recv i =>
    simp only [Broadcast.step, Shutdown.step]
    split <;> simp

theorem after (h : b.Behind) (ops : List Op) : (after ops b).Behind := by
  induction ops generalizing b with
  | nil => exact h
  | cons op ops ih => exact ih (h.step op)

theorem heed_step (h : b.Behind) (hi : i < b.cursors.length) (op : Op) :
    heed i op (pending i b) =
      (reception? i (op, (Broadcast.step op b).2), pending i (Broadcast.step op b).1) := by
  have hopen := h.isOpen
  cases op with
  | subscribe => simp [heed, reception?, Broadcast.step, Shutdown.step, pending, hopen,
      List.getElem?_append_left hi]
  | trigger =>
    have hsome : b.cursors ≠ [] := List.ne_nil_of_length_pos (Nat.zero_lt_of_lt hi)
    have hle := h.cursors _ (List.getElem_mem hi)
    simp [heed, reception?, Broadcast.step, Shutdown.step, pending, hopen, hsome,
      List.getElem?_eq_getElem hi, Nat.sub_add_comm hle]
  | recv j =>
    rcases Nat.lt_or_ge j b.cursors.length with hj | hj
    · rw [h.step_recv hj]
      by_cases hji : j = i
      · subst hji
        have hless : (take (pending j b)).2 ≤ b.triggered :=
          Nat.le_trans (take_le _) (pending_le j b)
        rw [pending_set hi, Nat.sub_sub_self hless]
        simp [heed, reception?]
      · simp [heed, reception?, hji, pending, List.getElem?_set_ne hji]
    · have hji : j ≠ i := by omega
      simp [heed, step_unknown hj, reception?, hji]

end Behind

/-! ## Runs -/

theorem cursors_after (ops : List Op) : (after ops {}).cursors.length = ops.count .subscribe := by
  induction ops using List.reverseRecOn with
  | nil => rfl
  | append_singleton ops op ih =>
    rw [after_concat, (behind_start.after ops).length_step, ih, List.count_append,
      List.count_singleton]
    simp

theorem receptions_eq_nil (h : ops.count .subscribe ≤ i) : receptions i ops = [] := by
  induction ops using List.reverseRecOn with
  | nil => rfl
  | append_singleton ops op ih =>
    rw [List.count_append] at h
    rw [receptions_concat, ih (by omega), List.nil_append, Option.toList_eq_nil_iff]
    cases op with
    | subscribe | trigger => rfl
    | recv j =>
      rcases Nat.lt_or_ge j (after ops {}).cursors.length with hj | hj
      · have hji : j ≠ i := by
          rw [cursors_after] at hj
          omega
        rw [(behind_start.after ops).step_recv hj]
        exact if_neg hji
      · rw [Behind.step_unknown hj]
        rfl

theorem heard_since {since : List Op} (h : since? .subscribe i ops = some since) :
    heard i since = (receptions i ops, pending i (after ops {})) := by
  induction ops using List.reverseRecOn generalizing since with
  | nil => simp [since?] at h
  | append_singleton ops op ih =>
    have hbehind := behind_start.after ops
    rw [since?_concat] at h
    rw [receptions_concat, after_concat]
    split at h
    · rename_i rest hrest
      obtain rfl := Option.some.inj h
      have hi : i < (after ops {}).cursors.length := by
        rw [cursors_after]
        exact since?_isSome_iff.mp (by rw [hrest]; rfl)
      rw [heard_concat, ih hrest, hbehind.heed_step hi]
    · rename_i hnone
      split at h
      · -- It subscribes with this step, and all events until now are behind it.
        rename_i hnow
        obtain rfl := Option.some.inj h
        obtain ⟨rfl, rfl⟩ := hnow
        have hpending : pending (ops.count .subscribe) (step .subscribe (after ops {})).1 = 0 := by
          simp [step, Shutdown.step, hbehind.isOpen, pending, ← cursors_after]
        rw [hpending, receptions_eq_nil (Nat.le_refl _)]
        rfl
      · contradiction

theorem recv_answer {since : List Op} (h : since? .subscribe i ops = some since) :
    (step (.recv i) (after ops {})).2 =
      .given (.received (take (pending i (after ops {}))).1) := by
  have hi : i < (after ops {}).cursors.length := by
    rw [cursors_after]
    exact since?_isSome_iff.mp (by rw [h]; rfl)
  rw [(behind_start.after ops).step_recv hi]

/-- The history of a subscriber whose predecessors have subscribed and done nothing more, without
a trigger before its own subscription. -/
def alone (i : Nat) (since : List Op) : List Op :=
  List.replicate (i + 1) .subscribe ++ since.filter (·.concerns i)

theorem since?_replicate {α : Type} [DecidableEq α] (a : α) (k : Nat) (l : List α) :
    since? a k (List.replicate (k + 1) a ++ l) = some l := by
  induction k with
  | zero => simp [since?]
  | succ k ih => simpa [since?, List.replicate_succ] using ih

theorem receptions_alone {since : List Op} (h : since? .subscribe i ops = some since) :
    receptions i (alone i since) = receptions i ops := by
  have halone := heard_since (since?_replicate .subscribe i (since.filter (·.concerns i)))
  rw [heard_concerns, heard_since h] at halone
  exact (congrArg Prod.fst halone).symm

theorem not_closed (ops : List Op) : .closed ∉ run ops {} := by
  induction ops using List.reverseRecOn with
  | nil => nofun
  | append_singleton ops op ih =>
    rw [run_concat, List.mem_append, not_or, List.mem_singleton]
    refine ⟨ih, ?_⟩
    have hopen := (behind_start.after ops).isOpen
    cases op <;> simp [step, hopen]

/-- Once the shutdown is gone, a subscriber is told so as soon as nothing is pending for it. -/
theorem recv_close_iff (h : b.Behind) (hi : i < b.cursors.length) :
    (step (.recv i) b.close).2 = .closed ↔ pending i b = 0 := by
  have hcursor : b.cursors[i]? = some b.cursors[i] := List.getElem?_eq_getElem hi
  have hle := h.cursors _ (List.getElem_mem hi)
  rw [← take_empty_iff]
  simp [step, Shutdown.step, close, pending, hcursor, receive_eq hle]

/-! ## Events that nobody could receive -/

/-- Where the channel stands if the shutdown has counted so many events that were discarded. -/
structure Discards (discarded : Nat) (s : Shutdown) (b : Broadcast) : Prop where
  isOpen : b.isOpen = true
  triggered : s.triggered = b.triggered + discarded
  cursors : s.cursors = b.cursors.map (· + discarded)

theorem receive_add (triggered cursor discarded : Nat) :
    receive (triggered + discarded) (cursor + discarded) =
      ((receive triggered cursor).1, (receive triggered cursor).2 + discarded) := by
  unfold receive
  by_cases hnone : triggered ≤ cursor
  · rw [if_pos hnone, if_pos (by omega)]
  · by_cases hlast : cursor + 1 = triggered
    · rw [if_neg hnone, if_pos hlast, if_neg (by omega), if_pos (by omega)]
    · rw [if_neg hnone, if_neg hlast, if_neg (by omega), if_neg (by omega)]
      simp
      omega

theorem Discards.step {discarded : Nat} {s : Shutdown} (h : Discards discarded s b) (op : Op) :
    (∃ more, Discards more (Shutdown.step op s).1 (step op b).1) ∧
      (step op b).2 = .given (Shutdown.step op s).2 := by
  obtain ⟨triggered, cursors⟩ := s
  obtain ⟨⟨kept, places⟩, isOpen⟩ := b
  obtain ⟨rfl, rfl, rfl⟩ := h
  cases op with
  | subscribe => exact ⟨⟨discarded, rfl, rfl, by simp [Broadcast.step, Shutdown.step]⟩,
      by simp [Broadcast.step, Shutdown.step]⟩
  | trigger =>
    refine ⟨?_, rfl⟩
    by_cases hnobody : places = []
    · subst hnobody
      exact ⟨discarded + 1, rfl, rfl, rfl⟩
    · refine ⟨discarded, ?_⟩
      simp only [Broadcast.step, if_true, if_neg hnobody]
      exact ⟨rfl, Nat.add_right_comm _ _ _, rfl⟩
  | recv i =>
    cases hplace : places[i]? with
    | none =>
      simp only [Broadcast.step, Shutdown.step, List.getElem?_map, hplace, Option.map_none]
      exact ⟨⟨discarded, rfl, rfl, rfl⟩, rfl⟩
    | some cursor =>
      simp only [Broadcast.step, Shutdown.step, List.getElem?_map, hplace, Option.map_some,
        receive_add]
      exact ⟨⟨discarded, rfl, rfl, by simp [List.map_set]⟩, by simp⟩

theorem Discards.run_eq {discarded : Nat} {s : Shutdown} (h : Discards discarded s b)
    (ops : List Op) : run ops b = (Shutdown.run ops s).map .given := by
  induction ops generalizing discarded s b with
  | nil => rfl
  | cons op ops ih =>
    obtain ⟨⟨more, hmore⟩, hanswer⟩ := h.step op
    rw [run, Shutdown.run, List.map_cons, hanswer, ih hmore]

/-- The discarded events are never missed: a shutdown that keeps count of all gives the same
answers. -/
theorem run_eq (ops : List Op) : run ops {} = (Shutdown.run ops {}).map .given :=
  have hstart : Discards 0 {} {} := ⟨rfl, rfl, rfl⟩
  hstart.run_eq ops

/-! ## The account -/

/-- For each subscriber, after any steps: the triggers since it subscribed are those it was fired,
those reported to it as missed and those pending. A receive of it is empty exactly if nothing is
pending, so the next one after a trigger is not. What it was told is what it would have been told
if nothing had been triggered before it subscribed and nobody else had received anything. And
nobody is told that the channel is closed. -/
theorem events_conserved {ops since : List Op} {i : Nat}
    (h : since? .subscribe i ops = some since) :
    let b := after ops {}
    let told := receptions i ops
    since.count .trigger = told.count .fired + (told.map (·.missed)).sum + pending i b ∧
    ((step (.recv i) b).2 = .given (.received .empty) ↔ pending i b = 0) ∧
    (∀ later, .recv i ∉ later → ∃ r, r ≠ .empty ∧
      (step (.recv i) (after (.trigger :: later) b)).2 = .given (.received r)) ∧
    told = receptions i (alone i since) ∧
    .closed ∉ run ops {} := by
  intro b told
  refine ⟨?_, ?_, fun later hlater => ?_, (receptions_alone h).symm, not_closed ops⟩
  · have hconserved := heard_conserved i since
    rwa [heard_since h] at hconserved
  · rw [recv_answer h, ← take_empty_iff]
    simp [b]
  · have hpending := heard_trigger i since hlater
    rw [heard_since (since?_append h (.trigger :: later))] at hpending
    have hanswer := recv_answer (since?_append h (.trigger :: later))
    rw [after_append] at hpending hanswer
    exact ⟨_, fun hempty => Nat.ne_of_gt hpending ((take_empty_iff _).mp hempty), hanswer⟩

/-- Two subscribers between five triggers: the first one misses two events at once, the second one
has an event pending, and neither is told of the event that came before both. -/
theorem events_conserved_two_subscribers :
    let ops : List Op := [.trigger, .subscribe, .trigger, .subscribe, .trigger, .trigger,
      .recv 0, .recv 1, .recv 0, .recv 0, .trigger, .recv 0]
    let since : List Op := [.trigger, .subscribe, .trigger, .trigger,
      .recv 0, .recv 1, .recv 0, .recv 0, .trigger, .recv 0]
    since? .subscribe 0 ops = some since ∧
    receptions 0 (alone 0 since) = [.lagged 2, .fired, .empty, .fired] ∧
    pending 0 (after ops {}) = 0 := by
  intro ops since
  have hsince : since? .subscribe 0 ops = some since := by decide
  obtain ⟨hconserved, -, -, halone, -⟩ := events_conserved hsince
  have htold : receptions 0 ops = [.lagged 2, .fired, .empty, .fired] := by decide
  rw [htold] at hconserved
  exact ⟨hsince, halone.symm.trans htold, (Nat.left_eq_add.mp hconserved)⟩

end Broadcast

end MatrixGateway
