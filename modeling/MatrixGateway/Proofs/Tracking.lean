import Mathlib.Algebra.Group.Nat.Defs
import Mathlib.Data.List.DropRight
import Mathlib.Data.List.Nodup
import Mathlib.Data.List.Perm.Subperm
import Mathlib.Data.List.Range
import MatrixGateway.Net.Tracker
import MatrixGateway.Proofs.Histories

/-!
# What the tracker knows of its connections

The steps done tell which guards are held and what each receiver has not seen
yet. The tracker's word for the count is the number of those guards, and the
identifiers are distinct, as long as there are fewer connections than words.
-/

set_option autoImplicit false

namespace MatrixGateway

namespace Connections

open History

variable {c : Connections} {done : List Op} {op : Op}

/-! ## What the steps done have left -/

def Op.drops (guard : Nat) : Op → Bool
  | .drop g => g = guard
  | .wait _ drops => drops.any (·.guard = guard)
  | .track | .receiver | .poll _ | .beginDrain => false

def isHeld (done : List Op) (guard : Nat) : Bool :=
  match since? .track guard done with
  | some rest => !rest.any (·.drops guard)
  | none => false

/-- What has been done since a receiver last looked, or since the start if it never did. -/
def unread (receiver : Nat) (done : List Op) : List Op :=
  match since? .receiver receiver done with
  | some rest => if .poll receiver ∈ rest then rest.rtakeWhile (· ≠ .poll receiver) else done
  | none => done

theorem isHeld_concat (guard : Nat) :
    isHeld (done ++ [op]) guard =
      if op = .track ∧ done.count .track = guard then true
      else isHeld done guard && !op.drops guard := by
  unfold isHeld
  rw [since?_concat]
  cases h : since? .track guard done with
  | none =>
    dsimp only
    split <;> simp_all
  | some rest =>
    have hborn : guard < done.count .track := since?_isSome_iff.mp (by rw [h]; rfl)
    dsimp only
    rw [if_neg fun hnow => absurd hnow.2 (Nat.ne_of_gt hborn)]
    simp

theorem unread_concat (receiver : Nat) :
    unread receiver (done ++ [op]) =
      if op = .poll receiver ∧ receiver < done.count .receiver then []
      else unread receiver done ++ [op] := by
  unfold unread
  rw [since?_concat]
  cases h : since? .receiver receiver done with
  | none =>
    have habsent : ¬ (op = .poll receiver ∧ receiver < done.count .receiver) :=
      fun hnow => absurd hnow.2 (Nat.not_lt.mpr (since?_eq_none_iff.mp h))
    rw [if_neg habsent]
    dsimp only
    split <;> simp_all
  | some rest =>
    have hthere : receiver < done.count .receiver := since?_isSome_iff.mp (by rw [h]; rfl)
    dsimp only
    by_cases hpoll : op = .poll receiver
    · simp [hpoll, hthere]
    · by_cases hbefore : .poll receiver ∈ rest <;> simp [hpoll, Ne.symm hpoll, hbefore]

structure Recorded (done : List Op) (c : Connections) : Prop where
  opened : c.opened = done.count .track
  live : c.live = (List.range c.opened).filter (isHeld done)
  drains : c.drains = done.count .beginDrain
  receivers : c.seen.length = done.count .receiver
  seen : ∀ (i v : Nat), c.seen[i]? = some v → v + (unread i done).count .beginDrain = c.drains

theorem recorded_nil : Recorded [] {} where
  opened := rfl
  live := rfl
  drains := rfl
  receivers := rfl
  seen := by simp

theorem release_drops (c : Connections) (drops : List Drop) :
    drops.foldl (fun c d => c.release d.guard) c =
      { c with live := c.live.filter fun g => !drops.any (·.guard = g) } := by
  induction drops generalizing c with
  | nil => simp
  | cons d drops ih =>
    rw [List.foldl_cons, ih]
    simp only [release, List.filter_filter, List.any_cons]
    congr 1
    apply List.filter_congr
    intro g _
    by_cases hg : g = d.guard <;> simp [hg, eq_comm]

theorem step_poll (c : Connections) (i : Nat) :
    (step (.poll i) c).1 = { c with seen := c.seen.set i c.drains } := by
  unfold step
  dsimp only
  split
  · rename_i hi
    rw [List.set_eq_of_length_le (List.getElem?_eq_none_iff.mp hi)]
  · rfl

theorem length_release (c : Connections) (guard : Nat) (h : c.live.Nodup) :
    (c.release guard).live.length =
      if guard ∈ c.live then c.live.length - 1 else c.live.length := by
  have herase : c.live.filter (· ≠ guard) = c.live.erase guard := by
    rw [h.erase_eq_filter]
    exact List.filter_congr fun g _ => by by_cases hg : g = guard <;> simp [hg]
  rw [release, herase, List.length_erase]

namespace Recorded

theorem live_other (h : Recorded done c) (hop : op ≠ .track) :
    (List.range c.opened).filter (isHeld (done ++ [op])) =
      c.live.filter fun g => !op.drops g := by
  rw [h.live, List.filter_filter]
  apply List.filter_congr
  intro g _
  rw [isHeld_concat, if_neg fun hnow => hop hnow.1, Bool.and_comm]

theorem live_kept (h : Recorded done c) (hop : op ≠ .track) (hdrops : ∀ g, op.drops g = false) :
    c.live = (List.range c.opened).filter (isHeld (done ++ [op])) := by
  rw [h.live_other hop]
  simp [hdrops]

theorem seen_other (h : Recorded done c) (hpoll : ∀ i, op ≠ .poll i) (hdrain : op ≠ .beginDrain)
    (i v : Nat) (hv : c.seen[i]? = some v) :
    v + (unread i (done ++ [op])).count .beginDrain = c.drains := by
  rw [unread_concat, if_neg fun hnow => hpoll i hnow.1, List.count_append,
    List.count_singleton, ← h.seen i v hv]
  simp [hdrain]

theorem thinned (h : Recorded done c) (htrack : op ≠ .track) (hreceiver : op ≠ .receiver)
    (hpoll : ∀ i, op ≠ .poll i) (hdrain : op ≠ .beginDrain) :
    Recorded (done ++ [op]) { c with live := c.live.filter fun g => !op.drops g } where
  opened := by simp [h.opened, htrack]
  live := (h.live_other htrack).symm
  drains := by simp [h.drains, hdrain]
  receivers := by simp [h.receivers, hreceiver]
  seen := h.seen_other hpoll hdrain

theorem step (h : Recorded done c) (op : Op) : Recorded (done ++ [op]) (step op c).1 := by
  cases op with
  | track =>
    exact {
      opened := by simp [Connections.step, h.opened]
      live := by
        have hold : (List.range c.opened).filter (isHeld (done ++ [.track])) = c.live := by
          rw [h.live]
          apply List.filter_congr
          intro g hg
          have hborn : g ≠ done.count .track := by
            rw [← h.opened]
            exact Nat.ne_of_lt (List.mem_range.mp hg)
          rw [isHeld_concat, if_neg fun hnow => hborn hnow.2.symm]
          simp [Op.drops]
        have hnew : isHeld (done ++ [.track]) c.opened = true := by
          rw [isHeld_concat, if_pos ⟨rfl, h.opened.symm⟩]
        simp [Connections.step, List.range_succ, hold, hnew]
      drains := by simp [Connections.step, h.drains]
      receivers := by simp [Connections.step, h.receivers]
      seen := h.seen_other (by simp) (by simp) }
  | drop guard =>
    have hstep : (Connections.step (.drop guard) c).1 =
        { c with live := c.live.filter fun g => !(Op.drop guard).drops g } := by
      simp [Connections.step, release, Op.drops, eq_comm]
    rw [hstep]
    exact h.thinned (by simp) (by simp) (by simp) (by simp)
  | receiver =>
    exact {
      opened := by simp [Connections.step, h.opened]
      live := h.live_kept (by simp) fun _ => rfl
      drains := by simp [Connections.step, h.drains]
      receivers := by simp [Connections.step, h.receivers]
      seen := by
        intro i v hv
        rw [Connections.step, List.getElem?_append] at hv
        split at hv
        · exact h.seen_other (by simp) (by simp) i v hv
        · rename_i hi
          -- The receiver is new, so everything done so far is news to it.
          rw [List.getElem?_singleton] at hv
          split at hv
          · obtain rfl := Option.some.inj hv
            have hnew : unread i (done ++ [.receiver]) = done ++ [.receiver] := by
              rw [unread_concat, if_neg (by simp)]
              unfold unread
              rw [since?_eq_none_iff.mpr (by rw [← h.receivers]; omega)]
            simp [Connections.step, hnew, h.drains]
          · contradiction }
  | poll i =>
    rw [step_poll]
    exact {
      opened := by simp [h.opened]
      live := h.live_kept (by simp) fun _ => rfl
      drains := by simp [h.drains]
      receivers := by simp [h.receivers]
      seen := by
        intro j v hv
        have hj : j < done.count .receiver := by
          rw [← h.receivers]
          simpa using (List.getElem?_eq_some_iff.mp hv).1
        rw [unread_concat]
        by_cases hij : i = j
        · subst hij
          have hi : i < c.seen.length := h.receivers ▸ hj
          rw [List.getElem?_set_self hi] at hv
          simp [hj, Option.some.inj hv]
        · rw [List.getElem?_set_ne hij] at hv
          simp [hij, ← h.seen j v hv] }
  | beginDrain =>
    exact {
      opened := by simp [Connections.step, h.opened]
      live := h.live_kept (by simp) fun _ => rfl
      drains := by simp [Connections.step, h.drains]
      receivers := by simp [Connections.step, h.receivers]
      seen := by
        intro i v hv
        have hseen := h.seen i v hv
        simp only [Connections.step, unread_concat]
        simp
        omega }
  | wait limit drops =>
    have hstep : (Connections.step (.wait limit drops) c).1 =
        { c with live := c.live.filter fun g => !(Op.wait limit drops).drops g } :=
      release_drops c drops
    rw [hstep]
    exact h.thinned (by simp) (by simp) (by simp) (by simp)

end Recorded

/-! ## Guards that are dropped during a wait -/

theorem liveAt_eq (live : List Nat) (drops : List Drop) (time : Nat) :
    liveAt live drops time =
      live.filter fun g => !(drops.filter (·.time ≤ time)).any (·.guard = g) := by
  unfold liveAt
  apply List.filter_congr
  intro g _
  rw [List.any_filter]
  simp [Bool.and_comm]

theorem filter_thinned (live : List Nat) {first later : Nat → Bool}
    (h : ∀ g, first g = true → later g = true) :
    (live.filter fun g => !first g).filter (fun g => !later g) = live.filter fun g => !later g := by
  rw [List.filter_filter]
  apply List.filter_congr
  intro g _
  cases hlater : later g with
  | true => rfl
  | false =>
    have hfirst : first g = false := Bool.eq_false_iff.mpr fun hg => by simp [h g hg] at hlater
    rw [hfirst]
    rfl

theorem liveAt_liveAt (live : List Nat) (drops : List Drop) {time later : Nat}
    (h : time ≤ later) : liveAt (liveAt live drops time) drops later = liveAt live drops later := by
  refine filter_thinned live fun g => ?_
  simp only [List.any_eq_true, Bool.and_eq_true, decide_eq_true_eq]
  rintro ⟨d, hd, hguard, htime⟩
  exact ⟨d, hd, hguard, Nat.le_trans htime h⟩

theorem filter_liveAt (live : List Nat) (drops : List Drop) (time : Nat) :
    (liveAt live drops time).filter (fun g => !drops.any (·.guard = g)) =
      live.filter fun g => !drops.any (·.guard = g) := by
  refine filter_thinned live fun g => ?_
  simp only [List.any_eq_true, Bool.and_eq_true]
  rintro ⟨d, hd, hguard, -⟩
  exact ⟨d, hd, hguard⟩

/-- Guards already dropped by then change nothing for the looks to come. -/
theorem await_liveAt (live : List Nat) (drops : List Drop) {limit time later : Nat}
    (h : time ≤ later) :
    await (liveAt live drops time) drops limit later =
      await live drops limit later := by
  fun_induction await live drops limit later with
  | case1 later hnone =>
    rw [await, liveAt_liveAt _ _ h, if_pos hnone]
  | case2 later hsome hin ih =>
    rw [await, liveAt_liveAt _ _ h, if_neg hsome, if_pos hin]
    exact ih (Nat.le_trans h (Nat.le_add_right _ _))
  | case3 later hsome hout =>
    rw [await, liveAt_liveAt _ _ h, if_neg hsome, if_neg hout]

end Connections

end MatrixGateway

namespace MatrixGateway.Tracker

open Connections (Op Answer Drop Recorded isHeld unread liveAt liveAt_eq liveAt_liveAt period)

variable {t : Tracker} {drops : List Drop}

/-! ## The count -/

structure IsExact (t : Tracker) : Prop where
  count : t.count.toNat = t.live.length
  nodup : t.live.Nodup
  opened : ∀ g ∈ t.live, g < t.opened

theorem drop_connections (t : Tracker) (guard : Nat) :
    (t.drop guard).toConnections = t.release guard := by
  unfold drop
  split
  · rfl
  · rename_i hguard
    have hrest : t.live.filter (· ≠ guard) = t.live :=
      List.filter_eq_self.mpr fun g hg => decide_eq_true (ne_of_mem_of_not_mem hg hguard)
    rw [Connections.release, hrest]

theorem drop_names (t : Tracker) (guard : Nat) :
    (t.drop guard).nextId = t.nextId ∧ (t.drop guard).ids = t.ids := by
  unfold drop
  split <;> exact ⟨rfl, rfl⟩

theorem IsExact.drop (h : t.IsExact) (guard : Nat) : (t.drop guard).IsExact where
  count := by
    rw [drop_connections, Connections.length_release _ _ h.nodup, ← h.count]
    unfold Tracker.drop
    split
    · rename_i hguard
      have hpos : 0 < t.live.length := List.length_pos_of_mem hguard
      have hone : (1 : UInt64) ≤ t.count := by
        rw [UInt64.le_iff_toNat_le, h.count]
        exact hpos
      exact UInt64.toNat_sub_of_le _ _ hone
    · rfl
  nodup := by
    rw [drop_connections]
    exact h.nodup.filter _
  opened := by
    rw [drop_connections]
    intro g hg
    exact h.opened g (List.mem_of_mem_filter hg)

theorem dropAll_names (t : Tracker) (drops : List Drop) :
    (t.dropAll drops).nextId = t.nextId ∧ (t.dropAll drops).ids = t.ids := by
  induction drops generalizing t with
  | nil => exact ⟨rfl, rfl⟩
  | cons d drops ih =>
    obtain ⟨hnext, hids⟩ := ih (t.drop d.guard)
    exact ⟨hnext.trans (t.drop_names d.guard).1, hids.trans (t.drop_names d.guard).2⟩

theorem dropAll_connections (t : Tracker) (drops : List Drop) :
    (t.dropAll drops).toConnections =
      { t.toConnections with live := t.live.filter fun g => !drops.any (·.guard = g) } := by
  rw [← Connections.release_drops]
  induction drops generalizing t with
  | nil => rfl
  | cons d drops ih => exact (ih (t.drop d.guard)).trans (by rw [drop_connections]; rfl)

theorem IsExact.dropAll (h : t.IsExact) (drops : List Drop) : (t.dropAll drops).IsExact := by
  induction drops generalizing t with
  | nil => exact h
  | cons d drops ih => exact ih (h.drop d.guard)

/-! ## Waiting for the drain -/

theorem dropDue_connections (t : Tracker) (drops : List Drop) (time : Nat) :
    (t.dropDue drops time).toConnections =
      { t.toConnections with live := liveAt t.live drops time } := by
  rw [dropDue, dropAll_connections, liveAt_eq]

theorem dropDue_names (t : Tracker) (drops : List Drop) (time : Nat) :
    (t.dropDue drops time).nextId = t.nextId ∧ (t.dropDue drops time).ids = t.ids :=
  t.dropAll_names _

theorem IsExact.dropDue (h : t.IsExact) (drops : List Drop) (time : Nat) :
    (t.dropDue drops time).IsExact :=
  h.dropAll _

theorem IsExact.count_eq_zero_iff (h : t.IsExact) : t.count = 0 ↔ t.live = [] := by
  rw [← UInt64.toNat_inj, h.count]
  exact List.length_eq_zero_iff

theorem IsExact.look_iff (h : t.IsExact) (drops : List Drop) (time : Nat) :
    (t.dropDue drops time).count = 0 ↔ liveAt t.live drops time = [] := by
  rw [(h.dropDue drops time).count_eq_zero_iff, dropDue_connections]

structure Awaited (t : Tracker) (drops : List Drop) (limit time : Nat)
    (r : Tracker × Bool × Nat) : Prop where
  answer : r.2 = Connections.await t.live drops limit time
  connections : r.1.toConnections = { t.toConnections with live := liveAt t.live drops r.2.2 }
  exact : r.1.IsExact
  names : r.1.nextId = t.nextId ∧ r.1.ids = t.ids
  bounds : time ≤ r.2.2 ∧ r.2.2 ≤ limit

theorem IsExact.await (h : t.IsExact) (drops : List Drop) {limit time : Nat} (hle : time ≤ limit) :
    Awaited t drops limit time (t.await drops limit time) := by
  fun_induction Tracker.await t drops limit time with
  | case1 t time hzero =>
    exact {
      answer := by rw [Connections.await, if_pos ((h.look_iff drops time).mp hzero)]
      connections := t.dropDue_connections drops time
      exact := h.dropDue drops time
      names := t.dropDue_names drops time
      bounds := ⟨Nat.le_refl _, hle⟩ }
  | case2 t time hcount hin ih =>
    have hsome := mt (h.look_iff drops time).mpr hcount
    have hrest := ih (h.dropDue drops time) hin
    have hperiod := Nat.le_add_right time period
    exact {
      answer := by
        rw [hrest.answer, dropDue_connections, Connections.await_liveAt _ _ hperiod]
        conv_rhs => rw [Connections.await, if_neg hsome, if_pos hin]
      connections := by
        rw [hrest.connections, dropDue_connections,
          liveAt_liveAt _ _ (Nat.le_trans hperiod hrest.bounds.1)]
      exact := hrest.exact
      names := by
        obtain ⟨hnext, hids⟩ := t.dropDue_names drops time
        exact ⟨hrest.names.1.trans hnext, hrest.names.2.trans hids⟩
      bounds := ⟨Nat.le_trans hperiod hrest.bounds.1, hrest.bounds.2⟩ }
  | case3 t time hcount hout =>
    have hsome := mt (h.look_iff drops time).mpr hcount
    exact {
      answer := by rw [Connections.await, if_neg hsome, if_neg hout]
      connections := by
        rw [dropDue_connections, dropDue_connections, liveAt_liveAt _ _ hle]
      exact := (h.dropDue drops time).dropDue drops limit
      names := by
        obtain ⟨hnext, hids⟩ := t.dropDue_names drops time
        obtain ⟨hnext', hids'⟩ := (t.dropDue drops time).dropDue_names drops limit
        exact ⟨hnext'.trans hnext, hids'.trans hids⟩
      bounds := ⟨hle, Nat.le_refl _⟩ }

/-! ## The steps -/

theorem IsExact.step_connections (h : t.IsExact) (op : Op) :
    (step op t).1.toConnections = (Connections.step op t.toConnections).1 ∧
      (step op t).2 = (Connections.step op t.toConnections).2 := by
  cases op with
  | track => exact ⟨rfl, rfl⟩
  | drop guard =>
    refine ⟨t.drop_connections guard, ?_⟩
    simp [step, Connections.step]
  | receiver => exact ⟨rfl, rfl⟩
  | poll i => exact ⟨rfl, rfl⟩
  | beginDrain => exact ⟨rfl, rfl⟩
  | wait limit drops =>
    have hwait := h.await drops (Nat.zero_le limit)
    constructor
    · simp only [step, Connections.step, dropAll_connections, Connections.release_drops]
      rw [hwait.connections, Connections.filter_liveAt]
    · simp only [step, Connections.step, hwait.answer]

/-- A tracker that has come from its first identifier on by a number of connections. -/
structure Tracks (first : UInt64) (done : List Op) (t : Tracker) : Prop where
  recorded : Recorded done t.toConnections
  exact : t.IsExact
  nextId : t.nextId = first + .ofNat t.opened
  ids : t.ids = (List.range t.opened).map fun k => first + .ofNat k

variable {first : UInt64} {done : List Op}

theorem tracks_start (first : UInt64) : Tracks first [] { nextId := first } where
  recorded := Connections.recorded_nil
  exact := ⟨rfl, List.nodup_nil, by simp⟩
  nextId := by simp
  ids := rfl

theorem IsExact.length_live (h : t.IsExact) : t.live.length ≤ t.opened := by
  have hsub : t.live ⊆ List.range t.opened := fun g hg => List.mem_range.mpr (h.opened g hg)
  simpa using (h.nodup.subperm hsub).length_le

theorem track_connections (t : Tracker) : t.track.toConnections =
    { t.toConnections with opened := t.opened + 1, live := t.live ++ [t.opened] } :=
  rfl

theorem IsExact.track (h : t.IsExact) (hfew : t.opened + 1 < 2 ^ 64) : t.track.IsExact where
  count := by
    have hcount : t.count.toNat + (1 : UInt64).toNat < 2 ^ 64 := by
      rw [h.count]
      exact Nat.lt_of_le_of_lt (Nat.add_le_add_right h.length_live 1) hfew
    rw [track_connections, List.length_append, ← h.count]
    exact (UInt64.toNat_add _ _).trans (Nat.mod_eq_of_lt hcount)
  nodup := by
    rw [track_connections, ← List.concat_eq_append]
    exact h.nodup.concat fun hmem => absurd (h.opened _ hmem) (Nat.lt_irrefl _)
  opened := by
    rw [track_connections]
    intro g hg
    rcases List.mem_append.mp hg with hg | hg
    · exact Nat.lt_succ_of_lt (h.opened g hg)
    · exact Nat.lt_succ_of_le (Nat.le_of_eq (List.mem_singleton.mp hg))

theorem IsExact.step (h : t.IsExact) (op : Op) (hfew : op = .track → t.opened + 1 < 2 ^ 64) :
    (step op t).1.IsExact := by
  cases op with
  | track => exact h.track (hfew rfl)
  | drop guard => exact h.drop guard
  | receiver => exact ⟨h.count, h.nodup, h.opened⟩
  | poll i =>
    constructor <;> simp only [Tracker.step, Connections.step_poll]
    · exact h.count
    · exact h.nodup
    · exact h.opened
  | beginDrain => exact ⟨h.count, h.nodup, h.opened⟩
  | wait limit drops => exact (h.await drops (Nat.zero_le limit)).exact.dropAll drops

theorem IsExact.step_names (h : t.IsExact) {op : Op} (hop : op ≠ .track) :
    (Tracker.step op t).1.nextId = t.nextId ∧ (Tracker.step op t).1.ids = t.ids := by
  cases op with
  | track => contradiction
  | drop guard => exact t.drop_names guard
  | receiver | poll | beginDrain => exact ⟨rfl, rfl⟩
  | wait limit drops =>
    obtain ⟨hnext, hids⟩ := (h.await drops (Nat.zero_le limit)).names
    obtain ⟨hnext', hids'⟩ := (t.await drops limit 0).1.dropAll_names drops
    exact ⟨hnext'.trans hnext, hids'.trans hids⟩

theorem Tracks.step (h : Tracks first done t) (op : Op)
    (hfew : (done ++ [op]).count .track < 2 ^ 64) :
    Tracks first (done ++ [op]) (step op t).1 := by
  have hrecorded : Recorded (done ++ [op]) (Tracker.step op t).1.toConnections := by
    rw [(h.exact.step_connections op).1]
    exact h.recorded.step op
  have hexact : (Tracker.step op t).1.IsExact := by
    refine h.exact.step op fun hop => ?_
    simpa [hop, h.recorded.opened] using hfew
  by_cases hop : op = .track
  · subst hop
    exact {
      recorded := hrecorded
      exact := hexact
      nextId := by
        change t.nextId + 1 = first + .ofNat (t.opened + 1)
        rw [h.nextId, UInt64.ofNat_add, ← UInt64.add_assoc]
        rfl
      ids := by
        change t.ids ++ [t.nextId] = (List.range (t.opened + 1)).map _
        rw [h.ids, h.nextId, List.range_succ, List.map_append]
        rfl }
  · obtain ⟨hnext, hids⟩ := h.exact.step_names hop
    have hopened : (Tracker.step op t).1.opened = t.opened := by
      rw [hrecorded.opened, h.recorded.opened]
      simp [hop]
    exact {
      recorded := hrecorded
      exact := hexact
      nextId := by rw [hnext, hopened, h.nextId]
      ids := by rw [hids, hopened, h.ids] }

/-- A step that is followed by others leaves room for them. -/
theorem Tracks.step_of_run (h : Tracks first done t) {op : Op} {ops : List Op}
    (hfew : (done ++ op :: ops).count .track < 2 ^ 64) :
    Tracks first (done ++ [op]) (Tracker.step op t).1 ∧
      (done ++ [op] ++ ops).count .track < 2 ^ 64 := by
  rw [List.append_cons] at hfew
  have hle := (List.sublist_append_left (done ++ [op]) ops).count_le .track
  exact ⟨h.step op (Nat.lt_of_le_of_lt hle hfew), hfew⟩

theorem Tracks.after (h : Tracks first done t) (ops : List Op)
    (hfew : (done ++ ops).count .track < 2 ^ 64) : Tracks first (done ++ ops) (after ops t) := by
  induction ops generalizing done t with
  | nil => simpa [Tracker.after] using h
  | cons op ops ih =>
    obtain ⟨hstep, hrest⟩ := h.step_of_run hfew
    rw [List.append_cons]
    exact ih hstep hrest

theorem Tracks.run_eq (h : Tracks first done t) (ops : List Op)
    (hfew : (done ++ ops).count .track < 2 ^ 64) :
    (run ops t).map (fun r => (r.1, r.2.toNat)) = Connections.run ops t.toConnections := by
  induction ops generalizing done t with
  | nil => rfl
  | cons op ops ih =>
    obtain ⟨hstep, hrest⟩ := h.step_of_run hfew
    obtain ⟨hnext, hanswer⟩ := h.exact.step_connections op
    rw [run, List.map_cons, Connections.run, ih hstep hrest, hstep.exact.count, hnext, hanswer]
    rfl

theorem Tracks.ids_nodup (h : Tracks first done t) (hfew : t.opened ≤ 2 ^ 64) : t.ids.Nodup := by
  rw [h.ids]
  refine List.nodup_range.map_on fun a ha b hb hab => ?_
  have hword : UInt64.ofNat a = UInt64.ofNat b := (UInt64.add_right_inj first).mp hab
  have hmod := congrArg UInt64.toNat hword
  have ha := Nat.lt_of_lt_of_le (List.mem_range.mp ha) hfew
  have hb := Nat.lt_of_lt_of_le (List.mem_range.mp hb) hfew
  rwa [UInt64.toNat_ofNat', UInt64.toNat_ofNat', Nat.mod_eq_of_lt ha, Nat.mod_eq_of_lt hb] at hmod

theorem Tracks.poll (h : Tracks first done t) {i : Nat} (hi : i < done.count .receiver) :
    (Tracker.step (.poll i) t).2 =
      .polled (.beginDrain ∈ unread i done) (.beginDrain ∈ done) := by
  rw [← h.recorded.receivers] at hi
  have hv : t.seen[i]? = some t.seen[i] := List.getElem?_eq_getElem hi
  have hseen := h.recorded.seen i _ hv
  rw [(h.exact.step_connections (.poll i)).2]
  simp only [Connections.step, hv]
  congr 1
  · rw [decide_eq_decide, ← List.count_pos_iff]
    omega
  · rw [decide_eq_decide, ← List.count_pos_iff, h.recorded.drains]
    omega

/-- However the steps fall: the count is that of the guards handed out and not dropped since, all
identifiers differ, and a receiver reports a change exactly if a drain was begun since it last
looked, or ever if it has not looked yet. -/
theorem connections_accounted (first : UInt64) (ops : List Op) (hfew : ops.count .track < 2 ^ 64) :
    let t := after ops { nextId := first }
    t.count.toNat = (List.range (ops.count .track)).countP (isHeld ops) ∧
    t.ids.length = ops.count .track ∧ t.ids.Nodup ∧
    ∀ i < ops.count .receiver, (step (.poll i) t).2 =
      .polled (.beginDrain ∈ unread i ops) (.beginDrain ∈ ops) := by
  intro t
  have h : Tracks first ops t := (tracks_start first).after ops hfew
  refine ⟨?_, ?_, h.ids_nodup ?_, fun i hi => h.poll hi⟩
  · rw [h.exact.count, h.recorded.live, h.recorded.opened, List.countP_eq_length_filter]
  · rw [h.ids, List.length_map, List.length_range, h.recorded.opened]
  · rw [h.recorded.opened]
    exact Nat.le_of_lt hfew

/-- The identifiers come round past the greatest word, a second drop of the same guard does
nothing, and a receiver made after the drain began is told of it. -/
theorem connections_accounted_late_receiver :
    let ops : List Op := [.track, .track, .beginDrain, .drop 0, .drop 0, .receiver, .track]
    let t := after ops { nextId := 18446744073709551615 }
    ops.count .track < 2 ^ 64 ∧ 0 < ops.count .receiver ∧
    t.count.toNat = 2 ∧ t.ids = [18446744073709551615, 0, 1] ∧ t.ids.Nodup ∧
    (step (.poll 0) t).2 = .polled true true := by
  intro ops t
  have hfew : ops.count .track < 2 ^ 64 := by decide
  have hthere : 0 < ops.count .receiver := by decide
  obtain ⟨hcount, -, hnodup, hpoll⟩ := connections_accounted 18446744073709551615 ops hfew
  exact ⟨hfew, hthere, hcount.trans (by decide), by decide, hnodup,
    (hpoll 0 hthere).trans (by decide)⟩

end MatrixGateway.Tracker
