import Mathlib.Data.List.Nodup
import Mathlib.Tactic.Ring
import MatrixGateway.Proofs.Punycode

/-!
# Encoded labels read back

The reader puts every character back where the writer took it from: it stands
between two characters exactly when the writer has passed the first of them
and not the second. A label of code points far apart has a long form.
-/

set_option autoImplicit false

namespace MatrixGateway.Idna.Punycode

/-! ## Numbers -/

theorem digit?_digitChar : ∀ d < 36, digit? (digitChar d) = some d := by
  decide

def Reader.place? (r : Reader) (value : Nat) : Option Reader :=
  let count := r.out.length + 1
  let n := r.n + value / count
  if n.isValidChar then
    some
      { out := r.out.take (value % count) ++ Char.ofNat n :: r.out.drop (value % count)
        n
        bias := adapt (value - r.start) count (r.start = 0)
        start := value % count + 1
        value := value % count + 1 }
  else none

theorem read_last {d : Nat} {r : Reader} (hd : d < threshold r.k r.bias) (cs : List Char) :
    Reader.read (digitChar d :: cs) r =
      (r.place? (r.value + d * r.weight)).bind (Reader.read cs) := by
  have hbound := (threshold_bounds r.k r.bias).2
  rw [Reader.read, digit?_digitChar d (by omega)]
  simp only [Option.bind_eq_bind, Option.bind_some, if_pos hd, Reader.place?]
  split <;> rfl

theorem read_next {d : Nat} {r : Reader} (h36 : d < 36) (hd : ¬ d < threshold r.k r.bias)
    (cs : List Char) :
    Reader.read (digitChar d :: cs) r =
      Reader.read cs { r with
        value := r.value + d * r.weight
        weight := r.weight * (36 - threshold r.k r.bias)
        k := r.k + 36 } := by
  rw [Reader.read, digit?_digitChar d h36]
  simp only [Option.bind_eq_bind, Option.bind_some, if_neg hd]

theorem read_digits (q : Nat) (r : Reader) (cs : List Char) :
    Reader.read (digits r.bias r.k q ++ cs) r =
      (r.place? (r.value + q * r.weight)).bind (Reader.read cs) := by
  induction q using Nat.strongRecOn generalizing r with
  | ind q ih =>
    obtain ⟨h1, h26⟩ := threshold_bounds r.k r.bias
    rw [digits]
    split
    · rename_i hq
      exact read_last hq cs
    · rename_i hq
      let base := 36 - threshold r.k r.bias
      let rest := q - threshold r.k r.bias
      have hmod : rest % base < base := Nat.mod_lt _ (by omega)
      have hdiv : rest / base ≤ rest := Nat.div_le_self _ _
      let next : Reader :=
        { r with
          value := r.value + (threshold r.k r.bias + rest % base) * r.weight
          weight := r.weight * base
          k := r.k + 36 }
      have hvalue : next.value + rest / base * next.weight = r.value + q * r.weight := by
        have hq : q = threshold r.k r.bias + (rest % base + rest / base * base) := by
          rw [Nat.mod_add_div']
          omega
        calc next.value + rest / base * next.weight
          _ = r.value + (threshold r.k r.bias + (rest % base + rest / base * base)) * r.weight := by
            simp only [next]
            ring
          _ = r.value + q * r.weight := by rw [← hq]
      calc Reader.read (digitChar (threshold r.k r.bias + rest % base) ::
            digits r.bias (r.k + 36) (rest / base) ++ cs) r
        _ = Reader.read (digits next.bias next.k (rest / base) ++ cs) next :=
          read_next (by omega) (by omega) _
        _ = (next.place? (next.value + rest / base * next.weight)).bind (Reader.read cs) :=
          ih _ (by omega) next
        _ = (r.place? (r.value + q * r.weight)).bind (Reader.read cs) := by rw [hvalue]; rfl

/-! ## The reader follows the writer -/

section Pass

variable {basic m : Nat} {w : Writer} {c : Char}

theorem pass_below (h : c.toNat < m) : w.pass basic m c = { w with delta := w.delta + 1 } :=
  if_pos h

theorem pass_here (h : c.toNat = m) :
    w.pass basic m c =
      { out := w.out ++ digits w.bias 36 w.delta
        delta := 0
        bias := adapt w.delta (w.placed + 1) (w.placed = basic)
        placed := w.placed + 1 } := by
  rw [Writer.pass, if_neg (by omega), if_pos h]

theorem pass_above (h : m < c.toNat) : w.pass basic m c = w := by
  rw [Writer.pass, if_neg (by omega), if_neg (by omega)]

end Pass

/-- What the writer adds on its way from `w` to `v` takes the reader from `r` to `t`. -/
def Follows (w v : Writer) (r t : Reader) : Prop :=
  ∃ ds, v.out = w.out ++ ds ∧ ∀ cs, Reader.read (ds ++ cs) r = Reader.read cs t

theorem Follows.refl (w : Writer) (r : Reader) : Follows w w r r :=
  ⟨[], (List.append_nil _).symm, fun _ => rfl⟩

theorem Follows.trans {w v u : Writer} {r t p : Reader} (h : Follows w v r t)
    (h' : Follows v u t p) : Follows w u r p := by
  obtain ⟨ds, hds, hread⟩ := h
  obtain ⟨es, hes, hread'⟩ := h'
  refine ⟨ds ++ es, by rw [hes, hds, List.append_assoc], fun cs => ?_⟩
  rw [List.append_assoc, hread, hread']

/-- Reader and writer while the characters of code point `m` are written, of which `pre`
are passed and `post` are not: the reader holds what has been written so far, and the
number under way is how far it has to go. -/
structure InStep (basic m : Nat) (pre post : List Char) (w : Writer) (r : Reader) : Prop where
  out : r.out = pre.filter (·.toNat ≤ m) ++ post.filter (·.toNat < m)
  placed : w.placed = r.out.length
  bias : w.bias = r.bias
  start : r.start = r.value
  weight : r.weight = 1
  digit : r.k = 36
  basic_le : basic ≤ w.placed
  first : w.placed = basic ↔ r.start = 0
  behind : r.n ≤ m
  distance : r.value + w.delta =
    (m - r.n) * (w.placed + 1) + (pre.filter (·.toNat ≤ m)).length

section Step

variable {basic m : Nat} {pre post : List Char} {c : Char} {w : Writer} {r : Reader}

theorem InStep.write (h : InStep basic m pre (c :: post) w r) (hc : c.toNat = m) :
    ∃ t, Follows w (w.pass basic m c) r t ∧
      InStep basic m (pre ++ [c]) post (w.pass basic m c) t := by
  let place := (pre.filter (·.toNat ≤ m)).length
  have hout : r.out = pre.filter (·.toNat ≤ m) ++ post.filter (·.toNat < m) := by
    rw [h.out, List.filter_cons_of_neg (by simp [hc])]
  have hpre : (pre ++ [c]).filter (·.toNat ≤ m) = pre.filter (·.toNat ≤ m) ++ [c] := by
    simp [List.filter_append, hc]
  have hplace : place < r.out.length + 1 := by
    rw [hout, List.length_append]
    omega
  have hvalue : r.value + w.delta = place + (r.out.length + 1) * (m - r.n) := by
    rw [h.distance, h.placed, Nat.mul_comm, Nat.add_comm]
  have hdiv : (r.value + w.delta) / (r.out.length + 1) = m - r.n := by
    rw [hvalue, Nat.add_mul_div_left _ _ (Nat.succ_pos _), Nat.div_eq_of_lt hplace, Nat.zero_add]
  have hmod : (r.value + w.delta) % (r.out.length + 1) = place := by
    rw [hvalue, Nat.add_mul_mod_self_left, Nat.mod_eq_of_lt hplace]
  have hn : r.n + (m - r.n) = c.toNat := by
    have := h.behind
    omega
  let t : Reader :=
    { out := pre.filter (·.toNat ≤ m) ++ c :: post.filter (·.toNat < m)
      n := m
      bias := adapt w.delta (w.placed + 1) (w.placed = basic)
      start := place + 1
      value := place + 1 }
  have ht : r.place? (r.value + w.delta) = some t := by
    have hfirst : decide (w.placed = basic) = decide (r.start = 0) := decide_eq_decide.mpr h.first
    have hdelta : r.value + w.delta - r.start = w.delta := by
      rw [h.start]
      omega
    have htake : r.out.take place = pre.filter (·.toNat ≤ m) := by rw [hout, List.take_left]
    have hdrop : r.out.drop place = post.filter (·.toNat < m) := by rw [hout, List.drop_left]
    have hvalid : c.toNat.isValidChar := c.valid
    unfold Reader.place?
    simp only [hdiv, hmod, hn, if_pos hvalid, hdelta, htake, hdrop, Char.ofNat_toNat, ← hfirst]
    simp only [t, hc, h.placed]
  rw [pass_here hc]
  refine ⟨t, ⟨digits w.bias 36 w.delta, rfl, fun cs => ?_⟩, ?_⟩
  · have hread := read_digits w.delta r cs
    rw [← h.bias, h.digit, h.weight, Nat.mul_one, ht] at hread
    exact hread
  · refine ⟨?_, ?_, rfl, rfl, rfl, rfl, Nat.le_add_right_of_le h.basic_le, ?_, Nat.le_refl _, ?_⟩
    · rw [hpre, List.append_assoc]
      rfl
    · rw [h.placed, hout]
      simp [t]
      omega
    · have := h.basic_le
      simp only [t]
      omega
    · rw [hpre]
      simp [t, place]

theorem InStep.pass (h : InStep basic m pre (c :: post) w r) :
    ∃ t, Follows w (w.pass basic m c) r t ∧
      InStep basic m (pre ++ [c]) post (w.pass basic m c) t := by
  rcases Nat.lt_trichotomy c.toNat m with hc | hc | hc
  · have hpre : (pre ++ [c]).filter (·.toNat ≤ m) = pre.filter (·.toNat ≤ m) ++ [c] := by
      simp [List.filter_append, Nat.le_of_lt hc]
    rw [pass_below hc]
    refine ⟨r, Follows.refl w r, { h with out := ?_, distance := ?_ }⟩
    · rw [h.out, hpre, List.filter_cons_of_pos (by simpa using hc), List.append_assoc]
      rfl
    · rw [hpre, List.length_append, List.length_singleton, ← Nat.add_assoc, ← Nat.add_assoc,
        h.distance]
  · exact h.write hc
  · have hpre : (pre ++ [c]).filter (·.toNat ≤ m) = pre.filter (·.toNat ≤ m) := by
      simp [List.filter_append, hc]
    rw [pass_above hc]
    refine ⟨r, Follows.refl w r, { h with out := ?_, distance := ?_ }⟩
    · rw [h.out, hpre, List.filter_cons_of_neg (by simp; omega)]
    · rw [hpre, h.distance]

theorem InStep.passes (h : InStep basic m pre post w r) :
    ∃ t, Follows w (post.foldl (Writer.pass basic m) w) r t ∧
      InStep basic m (pre ++ post) [] (post.foldl (Writer.pass basic m) w) t := by
  induction post generalizing pre w r with
  | nil => exact ⟨r, Follows.refl w r, by rwa [List.append_nil]⟩
  | cons c post ih =>
    obtain ⟨t, hfollows, ht⟩ := h.pass
    obtain ⟨p, hfollows', hp⟩ := ih ht
    rw [List.append_assoc] at hp
    exact ⟨p, hfollows.trans hfollows', hp⟩

end Step

section Run

variable {basic : Nat} {s : List Char} {w : Writer} {r : Reader}

theorem InStep.skip {n m : Nat} (h : InStep basic n [] s w r) (hnm : n ≤ m)
    (hs : ∀ c ∈ s, n ≤ c.toNat → m ≤ c.toNat) :
    InStep basic m [] s { w with delta := w.delta + (m - n) * (w.placed + 1) } r := by
  have hfilter : s.filter (·.toNat < n) = s.filter (·.toNat < m) := by
    refine List.filter_congr fun c hc => decide_eq_decide.mpr ⟨fun hlt => by omega, fun hlt => ?_⟩
    by_contra hge
    exact absurd (hs c hc (by omega)) (by omega)
  have hbehind := h.behind
  have hdistance := h.distance
  refine { h with out := ?_, behind := by omega, distance := ?_ }
  · rw [h.out, hfilter]
    rfl
  · simp only [List.filter_nil, List.length_nil, Nat.add_zero] at hdistance ⊢
    rw [← Nat.add_assoc, hdistance, ← Nat.add_mul]
    congr 1
    omega

theorem InStep.next {m : Nat} (h : InStep basic m s [] w r) :
    InStep basic (m + 1) [] s { w with delta := w.delta + 1 } r := by
  have hfilter : s.filter (·.toNat ≤ m) = s.filter (·.toNat < m + 1) :=
    List.filter_congr fun c _ => decide_eq_decide.mpr Nat.lt_succ_iff.symm
  have hout : r.out = s.filter (·.toNat ≤ m) := by rw [h.out, List.filter_nil, List.append_nil]
  have hbehind := h.behind
  refine { h with out := ?_, behind := by omega, distance := ?_ }
  · rw [hout, hfilter]
    rfl
  · have hmul : (m + 1 - r.n) * (w.placed + 1) = (m - r.n) * (w.placed + 1) + (w.placed + 1) := by
      rw [Nat.succ_sub hbehind, Nat.succ_mul]
    rw [hmul, ← Nat.add_assoc, h.distance, h.placed, hout]
    rfl

theorem InStep.run {ms : List Nat} {n : Nat} (h : InStep basic n [] s w r)
    (hms : ms.Pairwise (· < ·)) (hge : ∀ m ∈ ms, n ≤ m)
    (hs : ∀ c ∈ s, n ≤ c.toNat → c.toNat ∈ ms) :
    ∃ t, Follows w (w.write s basic ms n) r t ∧ t.out = s ∧ t.k = 36 := by
  induction ms generalizing n w r with
  | nil =>
    refine ⟨r, Follows.refl w r, ?_, h.digit⟩
    have hall : s.filter (·.toNat < n) = s := by
      refine List.filter_eq_self.mpr fun c hc => decide_eq_true (Nat.lt_of_not_le fun hn => ?_)
      exact absurd (hs c hc hn) List.not_mem_nil
    rw [h.out, hall]
    rfl
  | cons m ms ih =>
    obtain ⟨hlt, hms⟩ := List.pairwise_cons.mp hms
    have hskip : ∀ c ∈ s, n ≤ c.toNat → m ≤ c.toNat := by
      intro c hc hn
      rcases List.mem_cons.mp (hs c hc hn) with hm | hm
      · exact Nat.le_of_eq hm.symm
      · exact Nat.le_of_lt (hlt _ hm)
    obtain ⟨t, hfollows, ht⟩ := (h.skip (hge m (by simp)) hskip).passes
    obtain ⟨p, hfollows', hp⟩ := ih ht.next hms (fun k hk => hlt k hk) fun c hc hm => by
      have hn := hge m (by simp)
      rcases List.mem_cons.mp (hs c hc (by omega)) with heq | hmem
      · omega
      · exact hmem
    exact ⟨p, hfollows.trans hfollows', hp⟩

end Run

/-! ## Code points in order -/

theorem eraseReps_loop (l : List Nat) (a : Nat) (acc : List Nat) (h : (a :: l).Pairwise (· ≤ ·)) :
    ∃ t, List.eraseRepsBy.loop (· == ·) a l acc = acc.reverse ++ t ∧ t.Pairwise (· < ·) ∧
      ∀ x, x ∈ t ↔ x ∈ a :: l := by
  induction l generalizing a acc with
  | nil =>
    exact ⟨[a], by simp [List.eraseRepsBy.loop], List.pairwise_singleton _ _, fun _ => Iff.rfl⟩
  | cons b l ih =>
    obtain ⟨ha, hl⟩ := List.pairwise_cons.mp h
    unfold List.eraseRepsBy.loop
    by_cases hab : a = b
    · subst hab
      rw [beq_self_eq_true]
      obtain ⟨t, ht, hpair, hmem⟩ := ih a acc hl
      exact ⟨t, ht, hpair, fun x => by rw [hmem]; simp⟩
    · rw [beq_false_of_ne hab]
      obtain ⟨t, ht, hpair, hmem⟩ := ih b (a :: acc) hl
      refine ⟨a :: t, by rw [ht]; simp, List.pairwise_cons.mpr ⟨fun x hx => ?_, hpair⟩, fun x => ?_⟩
      · have hle := ha b (by simp)
        rcases List.mem_cons.mp ((hmem x).mp hx) with rfl | hx
        · omega
        · have := (List.pairwise_cons.mp hl).1 x hx
          omega
      · rw [List.mem_cons, hmem, List.mem_cons (a := x) (b := a)]

def others (s : List Char) : List Nat :=
  ((s.filter (128 ≤ ·.toNat)).map Char.toNat).mergeSort.eraseReps

theorem others_spec (s : List Char) :
    (others s).Pairwise (· < ·) ∧ ∀ m, m ∈ others s ↔ 128 ≤ m ∧ ∃ c ∈ s, c.toNat = m := by
  have hmem : ∀ m, m ∈ ((s.filter (128 ≤ ·.toNat)).map Char.toNat).mergeSort ↔
      128 ≤ m ∧ ∃ c ∈ s, c.toNat = m := by
    intro m
    rw [List.mem_mergeSort]
    simp
    grind
  have hsorted : ((s.filter (128 ≤ ·.toNat)).map Char.toNat).mergeSort.Pairwise (· ≤ ·) := by
    have htrans : ∀ a b c : Nat,
        decide (a ≤ b) = true → decide (b ≤ c) = true → decide (a ≤ c) = true := by
      simp only [decide_eq_true_eq]
      omega
    have htotal : ∀ a b : Nat, (decide (a ≤ b) || decide (b ≤ a)) = true := by
      simp only [Bool.or_eq_true, decide_eq_true_eq]
      omega
    simpa using List.pairwise_mergeSort htrans htotal ((s.filter (128 ≤ ·.toNat)).map Char.toNat)
  unfold others List.eraseReps List.eraseRepsBy
  cases h : ((s.filter (128 ≤ ·.toNat)).map Char.toNat).mergeSort with
  | nil =>
    rw [h] at hmem
    exact ⟨List.Pairwise.nil, hmem⟩
  | cons a l =>
    rw [h] at hmem hsorted
    obtain ⟨t, ht, hpair, ht'⟩ := eraseReps_loop l a [] hsorted
    simp only [ht, List.reverse_nil, List.nil_append]
    exact ⟨hpair, fun m => (ht' m).trans (hmem m)⟩

/-! ## Labels -/

theorem decode?_encode (s : List Char) : decode? (encode s) = some s := by
  let basic := s.filter (·.toNat < 128)
  let w : Writer := { placed := basic.length }
  let written := w.write s basic.length (others s) 128
  obtain ⟨hsorted, hothers⟩ := others_spec s
  have hstart : InStep basic.length 128 [] s w { out := basic } :=
    ⟨rfl, rfl, rfl, rfl, rfl, rfl, Nat.le_refl _, ⟨fun _ => rfl, fun _ => rfl⟩, Nat.le_refl _,
      by simp [w]⟩
  obtain ⟨t, ⟨ds, hds, hread⟩, hout, hk⟩ := hstart.run hsorted
    (fun m hm => ((hothers m).mp hm).1) fun c hc hn => (hothers _).mpr ⟨hn, c, hc, rfl⟩
  have hread : Reader.read ds { out := basic } = some s := by
    have h := hread []
    rw [List.append_nil, Reader.read, if_pos hk, hout] at h
    exact h
  have hdigits : '-' ∉ ds := by
    intro hmem
    have hkey : ∀ d < 36, digitChar d ≠ '-' := by decide
    have hwritten : '-' ∈ written.out := by
      rw [hds]
      exact List.mem_append_right _ hmem
    rcases mem_write hwritten with h | ⟨d, hd, hc⟩
    · contradiction
    · exact hkey d hd hc.symm
  have hencode : encode s = basic ++ (if basic = [] then [] else ['-']) ++ ds :=
    congrArg (basic ++ (if basic = [] then [] else ['-']) ++ ·) hds
  by_cases hb : basic = []
  · rw [hencode, if_pos hb, hb, List.nil_append, List.nil_append, decode?,
      Text.cutLast?_eq_none hdigits, ← hread, hb]
  · rw [hencode, if_neg hb, List.append_assoc, List.singleton_append, decode?,
      Text.cutLast?_append basic hdigits]
    split
    · rename_i rest heq
      exact absurd (Prod.mk.inj (Option.some.inj heq)).1 hb
    · rename_i front rest _ heq
      obtain ⟨rfl, rfl⟩ := Prod.mk.inj (Option.some.inj heq)
      exact hread
    · contradiction

/-! ## Length -/

theorem digits_ne_nil (bias k q : Nat) : digits bias k q ≠ [] := by
  rw [digits]
  split <;> simp

theorem length_digits {bias k q : Nat} (hq : 936 ≤ q) : 3 ≤ (digits bias k q).length := by
  obtain ⟨h1, h26⟩ := threshold_bounds k bias
  obtain ⟨-, h26'⟩ := threshold_bounds (k + 36) bias
  have hdiv : 26 ≤ (q - threshold k bias) / (36 - threshold k bias) := by
    rw [Nat.le_div_iff_mul_le (by omega)]
    omega
  rw [digits, if_neg (by omega), List.length_cons, digits, if_neg (by omega), List.length_cons]
  have := List.length_pos_iff.mpr (digits_ne_nil bias (k + 36 + 36)
    (((q - threshold k bias) / (36 - threshold k bias) - threshold (k + 36) bias) /
      (36 - threshold (k + 36) bias)))
  omega

section Length

variable {basic m : Nat} {s : List Char} {w : Writer}

theorem length_pass (c : Char) :
    w.out.length ≤ (w.pass basic m c).out.length ∧ w.placed ≤ (w.pass basic m c).placed := by
  rcases Nat.lt_trichotomy c.toNat m with hc | hc | hc
  · rw [pass_below hc]
    exact ⟨Nat.le_refl _, Nat.le_refl _⟩
  · rw [pass_here hc, List.length_append]
    exact ⟨Nat.le_add_right _ _, Nat.le_succ _⟩
  · rw [pass_above hc]
    exact ⟨Nat.le_refl _, Nat.le_refl _⟩

theorem length_passes :
    w.out.length ≤ (s.foldl (Writer.pass basic m) w).out.length ∧
      w.placed ≤ (s.foldl (Writer.pass basic m) w).placed := by
  induction s generalizing w with
  | nil => exact ⟨Nat.le_refl _, Nat.le_refl _⟩
  | cons c s ih =>
    have hpass : w.out.length ≤ (w.pass basic m c).out.length ∧
        w.placed ≤ (w.pass basic m c).placed := length_pass c
    have hrest := ih (w := w.pass basic m c)
    exact ⟨Nat.le_trans hpass.1 hrest.1, Nat.le_trans hpass.2 hrest.2⟩

def leastDigits (delta : Nat) : Nat := if 936 ≤ delta then 3 else 1

theorem leastDigits_mono {a b : Nat} (h : a ≤ b) : leastDigits a ≤ leastDigits b := by
  unfold leastDigits
  split <;> split <;> omega

theorem leastDigits_le (bias delta : Nat) : leastDigits delta ≤ (digits bias 36 delta).length := by
  unfold leastDigits
  split
  · rename_i hdelta
    exact length_digits hdelta
  · exact List.length_pos_iff.mpr (digits_ne_nil _ _ _)

theorem length_round (hs : ∃ c ∈ s, c.toNat = m) :
    w.out.length + leastDigits w.delta ≤ (s.foldl (Writer.pass basic m) w).out.length ∧
      w.placed + 1 ≤ (s.foldl (Writer.pass basic m) w).placed := by
  induction s generalizing w with
  | nil => simp at hs
  | cons c s ih =>
    have htail : c.toNat ≠ m → ∃ d ∈ s, d.toNat = m := by
      intro hc
      obtain ⟨d, hd, hdm⟩ := hs
      rcases List.mem_cons.mp hd with rfl | hd
      · contradiction
      · exact ⟨d, hd, hdm⟩
    rw [List.foldl_cons]
    rcases Nat.lt_trichotomy c.toNat m with hc | hc | hc
    · rw [pass_below hc]
      obtain ⟨hout, hplaced⟩ := ih (htail (Nat.ne_of_lt hc)) (w := { w with delta := w.delta + 1 })
      exact ⟨Nat.le_trans (Nat.add_le_add_left (leastDigits_mono (Nat.le_succ _)) _) hout, hplaced⟩
    · have hrest : (w.pass basic m c).out.length ≤
            (s.foldl (Writer.pass basic m) (w.pass basic m c)).out.length ∧
          (w.pass basic m c).placed ≤
            (s.foldl (Writer.pass basic m) (w.pass basic m c)).placed := length_passes
      rw [pass_here hc] at hrest ⊢
      rw [List.length_append] at hrest
      have hdigits := leastDigits_le w.bias w.delta
      exact ⟨by omega, hrest.2⟩
    · rw [pass_above hc]
      exact ih (htail (Nat.ne_of_gt hc))

/-- The first characters cost one digit or more each, all others three or more. -/
theorem length_write {ms : List Nat} {n : Nat} (hms : ms.Pairwise (· + 29 ≤ ·))
    (hn : ∀ m ∈ ms, n + 28 ≤ m) (hs : ∀ m ∈ ms, ∃ c ∈ s, c.toNat = m) :
    w.out.length + 3 * ms.length ≤ (w.write s basic ms n).out.length + 2 * (33 - w.placed) := by
  induction ms generalizing n w with
  | nil => exact Nat.le_add_right _ _
  | cons m ms ih =>
    obtain ⟨hlt, hms⟩ := List.pairwise_cons.mp hms
    let start : Writer := { w with delta := w.delta + (m - n) * (w.placed + 1) }
    let passed := s.foldl (Writer.pass basic m) start
    have hround : start.out.length + leastDigits start.delta ≤ passed.out.length ∧
        start.placed + 1 ≤ passed.placed := length_round (hs m (by simp))
    have hnext : passed.out.length + 3 * ms.length ≤
        (w.write s basic (m :: ms) n).out.length + 2 * (33 - passed.placed) :=
      ih (w := { passed with delta := passed.delta + 1 }) hms
        (fun k hk => by have := hlt k hk; omega) fun k hk => hs k (by simp [hk])
    have hfar : 33 ≤ w.placed → 936 ≤ start.delta := by
      intro hplaced
      have hgap : 28 ≤ m - n := by
        have := hn m (by simp)
        omega
      calc 936 ≤ 28 * 34 := by decide
        _ ≤ (m - n) * (w.placed + 1) := Nat.mul_le_mul hgap (by omega)
        _ ≤ start.delta := Nat.le_add_left _ _
    obtain ⟨hout, hplaced⟩ := hround
    change w.out.length + _ ≤ _ at hout
    change w.placed + 1 ≤ _ at hplaced
    rw [List.length_cons]
    by_cases h33 : 33 ≤ w.placed
    · rw [leastDigits, if_pos (hfar h33)] at hout
      omega
    · have hone : 1 ≤ leastDigits start.delta := by
        unfold leastDigits
        split <;> omega
      omega

end Length

theorem length_encode {s : List Char} (hs : ∀ c ∈ s, 156 ≤ c.toNat)
    (hgap : ∀ c ∈ s, ∀ d ∈ s, c.toNat < d.toNat → c.toNat + 29 ≤ d.toNat) (hnodup : s.Nodup) :
    3 * s.length ≤ (encode s).length + 66 := by
  obtain ⟨hsorted, hothers⟩ := others_spec s
  have hperm : (others s).Perm (s.map Char.toNat) := by
    refine (List.perm_ext_iff_of_nodup (hsorted.imp fun h => Nat.ne_of_lt h)
      (List.Nodup.map (fun _ _ h => Char.toNat_inj.mp h) hnodup)).mpr fun m => ?_
    rw [hothers, List.mem_map, and_iff_right_iff_imp]
    rintro ⟨c, hc, rfl⟩
    exact Nat.le_trans (by decide) (hs c hc)
  have hfar : (others s).Pairwise (· + 29 ≤ ·) := by
    refine hsorted.imp_of_mem fun {a b} ha hb hlt => ?_
    obtain ⟨-, c, hc, rfl⟩ := (hothers a).mp ha
    obtain ⟨-, d, hd, rfl⟩ := (hothers b).mp hb
    exact hgap c hc d hd hlt
  have hlow : ∀ m ∈ others s, 128 + 28 ≤ m := by
    intro m hm
    obtain ⟨-, c, hc, rfl⟩ := (hothers m).mp hm
    exact hs c hc
  let basic := s.filter (·.toNat < 128)
  let start : Writer := { placed := basic.length }
  have hwrite : start.out.length + 3 * (others s).length ≤
      (start.write s basic.length (others s) 128).out.length + 2 * (33 - start.placed) :=
    length_write hfar hlow fun m hm => ((hothers m).mp hm).2
  have hlength : (others s).length = s.length := by rw [hperm.length_eq, List.length_map]
  have hencode : (start.write s basic.length (others s) 128).out.length ≤ (encode s).length := by
    rw [encode, List.length_append]
    exact Nat.le_add_left _ _
  rw [hlength] at hwrite
  change 0 + 3 * s.length ≤ _ at hwrite
  omega

end MatrixGateway.Idna.Punycode
