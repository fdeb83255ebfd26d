import MatrixGateway.Proofs.Tracking

/-!
# When the wait for the drain ends

A wait ends at its first look that finds no guard held, and with its time
otherwise. With drops between the looks, that is the look that follows the
last drop.
-/

set_option autoImplicit false

namespace MatrixGateway

namespace Connections

variable {live : List Nat} {drops : List Drop} {limit : Nat}

/-! ## The looks of a wait -/

theorem await_first {m n : Nat} (hmn : m ≤ n) (hin : n * period ≤ limit)
    (hnone : liveAt live drops (n * period) = [])
    (hsome : ∀ k, m ≤ k → k < n → liveAt live drops (k * period) ≠ []) :
    await live drops limit (m * period) = (true, n * period) := by
  induction hmn using Nat.decreasingInduction with
  | self => rw [await, if_pos hnone]
  | of_succ m hm ih =>
    have hnext : m * period + period ≤ limit := by
      rw [← Nat.succ_mul]
      exact Nat.le_trans (Nat.mul_le_mul_right _ hm) hin
    rw [await, if_neg (hsome m (Nat.le_refl m) hm), if_pos hnext, ← Nat.succ_mul]
    exact ih fun k hk => hsome k (Nat.le_of_succ_le hk)

theorem await_never {m : Nat}
    (hsome : ∀ k, m ≤ k → k * period ≤ limit → liveAt live drops (k * period) ≠ [])
    (hin : m * period ≤ limit) : await live drops limit (m * period) = (false, limit) := by
  obtain ⟨n, hn⟩ : ∃ n, limit / period = m + n :=
    Nat.exists_eq_add_of_le ((Nat.le_div_iff_mul_le (by decide)).mpr hin)
  induction n generalizing m with
  | zero =>
    have hout : ¬ m * period + period ≤ limit := by
      rw [← Nat.succ_mul, ← Nat.le_div_iff_mul_le (by decide), hn]
      exact Nat.not_succ_le_self m
    rw [await, if_neg (hsome m (Nat.le_refl m) hin), if_neg hout]
  | succ n ih =>
    have hnext : (m + 1) * period ≤ limit := by
      rw [← Nat.le_div_iff_mul_le (by decide), hn]
      omega
    rw [await, if_neg (hsome m (Nat.le_refl m) hin), ← Nat.succ_mul, if_pos hnext]
    exact ih (fun k hk => hsome k (Nat.le_of_succ_le hk)) hnext (by omega)

/-! ## The last drop -/

def dropTime? (drops : List Drop) (guard : Nat) : Option Nat :=
  ((drops.filter (·.guard = guard)).map (·.time)).min?

def lastDrop? (drops : List Drop) : List Nat → Option Nat
  | [] => some 0
  | guard :: live =>
    match dropTime? drops guard, lastDrop? drops live with
    | some time, some last => some (max time last)
    | _, _ => none

def nextLook (time : Nat) : Nat := (time / period + 1) * period

theorem dropTime?_mem {guard moment : Nat} (h : dropTime? drops guard = some moment) :
    ∃ d ∈ drops, d.guard = guard ∧ d.time = moment := by
  obtain ⟨d, hd, htime⟩ := List.mem_map.mp (List.min?_mem h)
  obtain ⟨hmem, hguard⟩ := List.mem_filter.mp hd
  exact ⟨d, hmem, of_decide_eq_true hguard, htime⟩

theorem dropTime?_le_iff (guard time : Nat) :
    (drops.any fun d => d.guard = guard && d.time ≤ time) = true ↔
      ∃ moment, dropTime? drops guard = some moment ∧ moment ≤ time := by
  simp only [List.any_eq_true, Bool.and_eq_true, decide_eq_true_eq]
  constructor
  · rintro ⟨d, hd, hguard, htime⟩
    have hmem : d.time ∈ (drops.filter (·.guard = guard)).map (·.time) :=
      List.mem_map_of_mem (List.mem_filter.mpr ⟨hd, decide_eq_true hguard⟩)
    obtain ⟨moment, hmoment⟩ := Option.isSome_iff_exists.mp (List.isSome_min?_of_mem hmem)
    exact ⟨moment, hmoment, Nat.le_trans ((List.min?_eq_some_iff.mp hmoment).2 _ hmem) htime⟩
  · rintro ⟨moment, hmoment, htime⟩
    obtain ⟨d, hd, hguard, rfl⟩ := dropTime?_mem hmoment
    exact ⟨d, hd, hguard, htime⟩

theorem liveAt_eq_nil_iff (live : List Nat) (time : Nat) :
    liveAt live drops time = [] ↔ ∃ last, lastDrop? drops live = some last ∧ last ≤ time := by
  induction live with
  | nil => simp [liveAt, lastDrop?]
  | cons g live ih =>
    have hcons : liveAt (g :: live) drops time = [] ↔
        (drops.any fun d => d.guard = g && d.time ≤ time) = true ∧
          liveAt live drops time = [] := by
      unfold liveAt
      rw [List.filter_eq_nil_iff, List.filter_eq_nil_iff, List.forall_mem_cons]
      simp only [Bool.not_eq_true', Bool.not_eq_false]
    rw [hcons, ih, dropTime?_le_iff, lastDrop?]
    cases dropTime? drops g with
    | none => simp
    | some moment =>
      cases lastDrop? drops live with
      | none => simp
      | some last => simp only [Option.some.injEq, exists_eq_left', Nat.max_le]

theorem exists_lastDrop? {last : Nat} (hlive : live ≠ []) (h : lastDrop? drops live = some last) :
    ∃ d ∈ drops, d.time = last := by
  have ofGuard {g moment : Nat} (hg : dropTime? drops g = some moment) :
      ∃ d ∈ drops, d.time = moment := by
    obtain ⟨d, hd, -, htime⟩ := dropTime?_mem hg
    exact ⟨d, hd, htime⟩
  induction live generalizing last with
  | nil => contradiction
  | cons g live ih =>
    unfold lastDrop? at h
    split at h
    · rename_i moment rest hg hrest
      obtain rfl := Option.some.inj h
      rcases Nat.le_total rest moment with hle | hle
      · rw [Nat.max_eq_left hle]
        exact ofGuard hg
      · by_cases hnil : live = []
        · subst hnil
          obtain rfl : 0 = rest := Option.some.inj hrest
          rw [Nat.max_eq_left (Nat.zero_le _)]
          exact ofGuard hg
        · rw [Nat.max_eq_right hle]
          exact ih hnil hrest
    · contradiction

/-- The end of a wait during which no drop, and no end of its time, falls on a look. -/
def awaited (live : List Nat) (drops : List Drop) (limit : Nat) : Bool × Nat :=
  if live = [] then (true, 0)
  else
    match lastDrop? drops live with
    | some last => if nextLook last < limit then (true, nextLook last) else (false, limit)
    | none => (false, limit)

theorem await_eq (htimes : ∀ d ∈ drops, ¬ period ∣ d.time) (hlimit : ¬ period ∣ limit) :
    await live drops limit 0 = awaited live drops limit := by
  unfold awaited
  split
  · rename_i hlive
    rw [hlive, await]
    rfl
  · rename_i hlive
    split
    · rename_i last hlast
      -- The last drop is not at a look, so it is over at exactly the looks from the next one on.
      have hbetween : ¬ period ∣ last := by
        obtain ⟨d, hd, rfl⟩ := exists_lastDrop? hlive hlast
        exact htimes d hd
      have hfree : ∀ k, liveAt live drops (k * period) = [] ↔ last / period + 1 ≤ k := by
        intro k
        rw [liveAt_eq_nil_iff, Nat.succ_le_iff, Nat.div_lt_iff_lt_mul (by decide)]
        simp only [hlast, Option.some.injEq, exists_eq_left']
        exact ⟨fun hle => Nat.lt_of_le_of_ne hle fun heq => hbetween ⟨k, by rw [heq, Nat.mul_comm]⟩,
          Nat.le_of_lt⟩
      split
      · rename_i hin
        have hfirst : await live drops limit (0 * period) = (true, nextLook last) :=
          await_first (Nat.zero_le _) (Nat.le_of_lt hin) ((hfree _).mpr (Nat.le_refl _))
            fun k _ hk hnone => absurd ((hfree k).mp hnone) (Nat.not_le.mpr hk)
        rwa [Nat.zero_mul] at hfirst
      · rename_i hout
        have hnever : await live drops limit (0 * period) = (false, limit) := by
          refine await_never (fun k _ hk hnone => ?_) (by simp)
          have hle : nextLook last ≤ k * period := Nat.mul_le_mul_right _ ((hfree k).mp hnone)
          have heq : nextLook last = limit := by omega
          exact hlimit ⟨last / period + 1, by rw [← heq, nextLook, Nat.mul_comm]⟩
        rwa [Nat.zero_mul] at hnever
    · rename_i hlast
      have hnever : await live drops limit (0 * period) = (false, limit) := by
        refine await_never (fun k _ _ hnone => ?_) (by simp)
        obtain ⟨last, hsome, -⟩ := (liveAt_eq_nil_iff live _).mp hnone
        rw [hlast] at hsome
        contradiction
      rwa [Nat.zero_mul] at hnever

theorem await_drained {time elapsed : Nat} (h : await live drops limit time = (true, elapsed)) :
    liveAt live drops elapsed = [] := by
  fun_induction await live drops limit time with
  | case1 time hnone =>
    obtain rfl := (Prod.mk.inj h).2
    exact hnone
  | case2 time hsome hin ih => exact ih h
  | case3 time hsome hout => exact absurd (Prod.mk.inj h).1 (by decide)

end Connections

namespace Tracker

open Connections

/-- A wait for the drain of the guards held after any steps, with drops between its looks: it is
drained at once if no guard is held, and otherwise at the first look after the last drop, if there
is one and that look is in time; else it ends undrained with its time. When it ends, the guards
not dropped by then are counted, and none is left if it ends as drained. -/
theorem wait_answered (first : UInt64) {ops : List Op} {drops : List Drop} {limit : Nat}
    (hfew : ops.count .track < 2 ^ 64) (htimes : ∀ d ∈ drops, ¬ period ∣ d.time)
    (hlimit : ¬ period ∣ limit) :
    let t := after ops { nextId := first }
    let held := (List.range (ops.count .track)).filter (isHeld ops)
    ∃ ended drained elapsed, t.await drops limit 0 = (ended, drained, elapsed) ∧
      (step (.wait limit drops) t).2 = .waited drained elapsed ∧
      (drained, elapsed) = awaited held drops limit ∧
      ended.count.toNat = (liveAt held drops elapsed).length ∧
      (drained = true → liveAt held drops elapsed = []) := by
  intro t held
  have h : Tracks first ops t := (tracks_start first).after ops hfew
  have hheld : t.live = held := by rw [h.recorded.live, h.recorded.opened]
  have hwait := h.exact.await drops (Nat.zero_le limit)
  have hanswer := hwait.answer
  rw [hheld] at hanswer
  refine ⟨_, _, _, rfl, rfl, hanswer.trans (await_eq htimes hlimit), ?_, fun hdrained => ?_⟩
  · rw [hwait.exact.count, hwait.connections, hheld]
  · exact await_drained (hanswer.symm.trans (Prod.ext hdrained rfl))

/-- Two guards are held and dropped out of turn, beside one that was dropped before and one that
never was: the look after the later drop is in time by a millisecond. -/
theorem wait_answered_two_guards :
    let ops : List Op := [.track, .track, .track, .drop 1]
    let drops : List Drop := [⟨350, 2⟩, ⟨120, 0⟩, ⟨777, 1⟩, ⟨50, 9⟩]
    let t := after ops {}
    ops.count .track < 2 ^ 64 ∧ (∀ d ∈ drops, ¬ period ∣ d.time) ∧
    ¬ period ∣ 401 ∧ (step (.wait 401 drops) t).2 = .waited true 400 := by
  intro ops drops t
  have hfew : ops.count .track < 2 ^ 64 := by decide
  have htimes : ∀ d ∈ drops, ¬ period ∣ d.time := by decide
  have hlimit : ¬ period ∣ 401 := by decide
  obtain ⟨_, drained, elapsed, -, hstep, hawaited, -, -⟩ :=
    wait_answered 1 hfew htimes hlimit
  obtain ⟨rfl, rfl⟩ : drained = true ∧ elapsed = 400 := Prod.mk.inj (hawaited.trans (by decide))
  exact ⟨hfew, htimes, hlimit, hstep⟩

end Tracker

end MatrixGateway
