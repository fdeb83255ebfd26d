import MatrixGateway.Proofs.Preparation

/-!
# Opening the listener

Faultless settings say where to listen and for how many connections. Whatever the machine thinks
of the address is told as an error. The number is only known not to be zero: where permits cannot
be made for so many, the listener is bound and then the program crashes.
-/

set_option autoImplicit false

namespace MatrixGateway

namespace Gateway

/-! ## The listener -/

variable (l : Settings.Listener) (m : Machine)

theorem openListener_refused {cause : BindFailure}
    (h : m.bindText (BindAddress.normalize l.bindAddress) = .error cause) :
    openListener l m = .error (.refused (.bind (BindAddress.normalize l.bindAddress) cause)) := by
  simp only [openListener, h]

theorem openListener_bound {socket : Socket}
    (h : m.bindText (BindAddress.normalize l.bindAddress) = .ok socket) :
    openListener l m =
      if l.maxConnections.toNat ≤ Admission.maxPermits then
        .ok (socket, { available := l.maxConnections.toNat })
      else .error (.crashed socket) := by
  simp only [openListener, h, Admission.open?]
  by_cases hfits : l.maxConnections.toNat ≤ Admission.maxPermits
  · simp only [if_pos hfits]
  · simp only [if_neg hfits]

theorem openListener_crashed_iff (socket : Socket) :
    openListener l m = .error (.crashed socket) ↔
      m.bindText (BindAddress.normalize l.bindAddress) = .ok socket ∧
        Admission.maxPermits < l.maxConnections.toNat := by
  cases h : m.bindText (BindAddress.normalize l.bindAddress) with
  | error cause => simp [openListener_refused l m h]
  | ok bound =>
    rw [openListener_bound l m h]
    split
    · rename_i hfits
      simp [Nat.not_lt.mpr hfits]
    · rename_i hlarge
      simp [Nat.not_le.mp hlarge]

/-- A gateway with faultless settings crashes at its listener exactly when the listener is bound
and is to hold more connections than there can be permits. Otherwise it holds as many as were
asked for, or the machine's refusal is told with the address. Nothing of this is asked of the
settings, which may have any number of connections but zero. -/
theorem faultless_crashes_iff {s : Settings} (hs : s.faults = []) :
    (∀ socket, openListener s.listener m = .error (.crashed socket) ↔
      m.bindText (BindAddress.normalize s.listener.bindAddress) = .ok socket ∧
        Admission.maxPermits < s.listener.maxConnections.toNat) ∧
    ((∀ socket, openListener s.listener m ≠ .error (.crashed socket)) →
      (∃ socket a, openListener s.listener m = .ok (socket, a) ∧
        a.available = s.listener.maxConnections.toNat ∧ 0 < a.available) ∨
      ∃ cause, openListener s.listener m =
        .error (.refused (.bind (BindAddress.normalize s.listener.bindAddress) cause))) ∧
    ∀ n : UInt64, n ≠ 0 →
      ({ s with listener := { s.listener with maxConnections := n } } : Settings).faults = [] := by
  refine ⟨openListener_crashed_iff s.listener m, fun hcalm => ?_,
    fun n hn => Settings.faults_maxConnections hs hn⟩
  cases hbound : m.bindText (BindAddress.normalize s.listener.bindAddress) with
  | error cause => exact Or.inr ⟨cause, openListener_refused s.listener m hbound⟩
  | ok socket =>
    have hsome : s.listener.maxConnections ≠ 0 := (Settings.faults_eq_nil_iff.mp hs).2.2.1
    have hfits : s.listener.maxConnections.toNat ≤ Admission.maxPermits := by
      by_contra hlarge
      exact hcalm socket ((openListener_crashed_iff s.listener m socket).mpr
        ⟨hbound, Nat.not_le.mp hlarge⟩)
    refine Or.inl ⟨socket, { available := s.listener.maxConnections.toNat }, ?_, rfl, ?_⟩
    · rw [openListener_bound s.listener m hbound, if_pos hfits]
    · exact Nat.pos_of_ne_zero fun hzero => hsome (UInt64.toNat_inj.mp hzero)

def idle : Machine where
  lookup _ := []
  owns _ := true
  reservedBelow := 1024
  occupied := []
  freePort := 40000

def everywhere : Socket := ⟨.v4 ⟨0⟩, 8008⟩

theorem bindText_everywhere : idle.bindText (BindAddress.normalize ":8008") = .ok everywhere := by
  decide +kernel

theorem idle_opens_by_default :
    let s : Settings := { homeserver := "localhost:8448" }
    s.faults = [] ∧ ∃ socket a, openListener s.listener idle = .ok (socket, a) ∧
      a.available = 10000 := by
  intro s
  have hfaults : s.faults = [] := Settings.faults_default Homeserver.parse_localhost_8448
  obtain ⟨hcrashed, hopened, -⟩ := faultless_crashes_iff idle hfaults
  have hmany : s.listener.maxConnections.toNat = 10000 := by decide +kernel
  have hfits : ¬ Admission.maxPermits < s.listener.maxConnections.toNat := by decide +kernel
  have hcalm : ∀ socket, openListener s.listener idle ≠ .error (.crashed socket) :=
    fun socket h => hfits ((hcrashed socket).mp h).2
  rcases hopened hcalm with ⟨socket, a, hopen, havailable, -⟩ | ⟨cause, hrefused⟩
  · exact ⟨hfaults, socket, a, hopen, havailable.trans hmany⟩
  · rw [openListener_bound s.listener idle bindText_everywhere, if_pos (Nat.not_lt.mp hfits)]
      at hrefused
    exact absurd hrefused (by simp only [reduceCtorEq, not_false_eq_true])

/-- A file may ask for one permit too many, and no fault is found in it. -/
theorem idle_crashes_one_above :
    let text := "[listener]\nmax_connections = 2305843009213693952\n"
    let flags : Flags := { homeserver := some "localhost:8448", config := some "gateway.toml" }
    ∃ s, Settings.load flags (fun _ => .ok (Bytes.ofString text)) = .ok s ∧ s.faults = [] ∧
      openListener s.listener idle = .error (.crashed everywhere) := by
  intro text flags
  let s : Settings :=
    { homeserver := "localhost:8448", listener := { maxConnections := 2305843009213693952 } }
  have hfaults : s.faults = [] :=
    Settings.faults_maxConnections (Settings.faults_default Homeserver.parse_localhost_8448)
      (by decide +kernel)
  have hmerged : Settings.merged flags (fun _ => .ok (Bytes.ofString text)) = .ok s := by
    decide +kernel
  exact ⟨s, Settings.load_eq_ok_iff.mpr ⟨hmerged, hfaults⟩, hfaults,
    (openListener_crashed_iff s.listener idle everywhere).mpr
      ⟨bindText_everywhere, by decide +kernel⟩⟩

end Gateway

end MatrixGateway
