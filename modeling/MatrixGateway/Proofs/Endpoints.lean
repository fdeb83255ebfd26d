import MatrixGateway.Proofs.Hops
import MatrixGateway.Proofs.Numerals
import MatrixGateway.Proofs.Opening

/-!
# Bind addresses and the grammar of endpoints

An endpoint is a host, a colon and a port, where the host is a dotted address, an address in
brackets or a name without colons and brackets. A bind address without a fault has a host and a
port, and that is all that the listener's reader asks of a text. So the check refuses what the
reader refuses, but not what is no endpoint: more colons and stray brackets are taken into the
host, which is looked up as a name when the sockets are opened.
-/

set_option autoImplicit false

namespace MatrixGateway

/-! ## Hosts -/

theorem Ipv4.octet?_digits {s : List Char} {n : Nat} (h : octet? s = some n) :
    ∀ c ∈ s, c.isDigit = true := by
  unfold octet? at h
  split at h
  · rename_i hs
    exact List.all_eq_true.mp hs.2.2.1
  · contradiction

theorem Ipv4.mem_parse? {s : List Char} {a : Ipv4} (h : parse? s = some a) :
    s ≠ [] ∧ ∀ c ∈ s, c.isDigit = true ∨ c = '.' := by
  unfold parse? at h
  split at h
  · rename_i w x y z hoctets
    refine ⟨?_, fun c hc => ?_⟩
    · rintro rfl
      exact nomatch hoctets
    · rw [← Text.intercalate_pieces '.' s] at hc
      rcases Text.mem_intercalate hc with rfl | ⟨p, hp, hcp⟩
      · exact Or.inr rfl
      · obtain ⟨n, -, hn⟩ := Idna.exists_mem_of_forall₂ (Idna.mapM_eq_some_iff.mp hoctets).flip hp
        exact Or.inl (octet?_digits hn c hcp)
  · contradiction

namespace BindAddress

inductive IsLiteral : List Char → Prop where
  | plain {s : List Char} {a : Ipv6} (h : Ipv6.parse? s = some a) : IsLiteral s
  | scoped {s scope : List Char} {a : Ipv6} (h : Ipv6.parse? s = some a)
      (hscope : Socket.isScope scope = true) : IsLiteral (s ++ '%' :: scope)

def IsBracketed (s : List Char) : Prop := ∃ a, s = '[' :: (a ++ [']']) ∧ IsLiteral a

def IsUnmarked (s : List Char) : Prop := ':' ∉ s ∧ '[' ∉ s ∧ ']' ∉ s

inductive IsHost : List Char → Prop where
  | dotted {s : List Char} {a : Ipv4} (h : Ipv4.parse? s = some a) : IsHost s
  | bracketed {s : List Char} (h : IsBracketed s) : IsHost s
  | named {s : List Char} (hne : s ≠ []) (h : IsUnmarked s) : IsHost s

def IsEndpoint (s : List Char) : Prop :=
  ∃ host port p, s = host ++ ':' :: port ∧ IsHost host ∧ Numeral.Denotes port (UInt16.toNat p)

theorem isUnmarked_of_digits {s : List Char} {mark : Char} (hmark : mark ∉ [':', '[', ']'])
    (h : ∀ c ∈ s, c.isDigit = true ∨ c = mark) : IsUnmarked s := by
  simp only [List.mem_cons, List.not_mem_nil, or_false, not_or] at hmark
  obtain ⟨hcolon, hopen, hclose⟩ := hmark
  refine ⟨fun hc => ?_, fun hc => ?_, fun hc => ?_⟩
  · exact (h _ hc).elim (by decide) fun heq => hcolon heq.symm
  · exact (h _ hc).elim (by decide) fun heq => hopen heq.symm
  · exact (h _ hc).elim (by decide) fun heq => hclose heq.symm

theorem isHost_iff {s : List Char} : IsHost s ↔ IsBracketed s ∨ s ≠ [] ∧ IsUnmarked s := by
  constructor
  · intro h
    cases h with
    | dotted h =>
      obtain ⟨hne, hchars⟩ := Ipv4.mem_parse? h
      exact Or.inr ⟨hne, isUnmarked_of_digits (by decide) hchars⟩
    | bracketed h => exact Or.inl h
    | named hne h => exact Or.inr ⟨hne, h⟩
  · rintro (h | ⟨hne, h⟩)
    · exact .bracketed h
    · exact .named hne h

/-! ## The last colon -/

section Cut

variable {s host port : List Char} {p : UInt16}

theorem port_unmarked (h : Numeral.Denotes port p.toNat) : IsUnmarked port :=
  isUnmarked_of_digits (by decide) (Numeral.mem_port? (Numeral.port?_eq_some_iff.mpr h))

theorem cut_iff : (Text.cutLast? ':' s = some (host, port) ∧ Numeral.port? port = some p) ↔
    s = host ++ ':' :: port ∧ Numeral.Denotes port p.toNat := by
  rw [Numeral.port?_eq_some_iff]
  constructor
  · rintro ⟨hcut, hport⟩
    exact ⟨(Text.cutLast?_eq_some hcut).1, hport⟩
  · rintro ⟨rfl, hport⟩
    exact ⟨Text.cutLast?_append host (port_unmarked hport).1, hport⟩

theorem isEndpoint_iff (hs : s = host ++ ':' :: port) (hport : Numeral.Denotes port p.toNat) :
    IsEndpoint s ↔ IsHost host := by
  constructor
  · rintro ⟨host', port', p', hs', hhost, hport'⟩
    have hcut := (cut_iff.mpr ⟨hs, hport⟩).1
    rw [(cut_iff.mpr ⟨hs', hport'⟩).1] at hcut
    obtain ⟨rfl, -⟩ := Prod.mk.inj (Option.some.inj hcut)
    exact hhost
  · exact fun hhost => ⟨host, port, p, hs, hhost, hport⟩

end Cut

/-! ## The check -/

section Check

variable (a : String)

theorem normalize_cases :
    (∃ rest, a.toList = ':' :: rest ∧ (normalize a).toList = "0.0.0.0".toList ++ a.toList) ∨
      (∀ rest, a.toList ≠ ':' :: rest) ∧ normalize a = a := by
  unfold normalize
  split
  · rename_i rest hs
    exact Or.inl ⟨rest, hs, String.toList_append⟩
  · rename_i hs
    exact Or.inr ⟨hs, rfl⟩

theorem normalize_hosted (rest : List Char) : (normalize a).toList ≠ ':' :: rest := by
  rcases normalize_cases a with ⟨tail, -, heq⟩ | ⟨hs, heq⟩
  · rw [heq]
    exact fun h => absurd (List.cons.inj h).1 (by decide)
  · rw [heq]
    exact hs rest

theorem count_normalize {c : Char} (hc : "0.0.0.0".toList.count c = 0) :
    (normalize a).toList.count c = a.toList.count c := by
  rcases normalize_cases a with ⟨rest, -, heq⟩ | ⟨-, heq⟩
  · rw [heq, List.count_append, hc, Nat.zero_add]
  · rw [heq]

theorem bindFaults_eq_nil_iff : Settings.bindFaults a = [] ↔
    ∃ host port p, (normalize a).toList = host ++ ':' :: port ∧
      Numeral.Denotes port (UInt16.toNat p) := by
  have hempty : accepts "" = false := rfl
  have haccepts : Settings.bindFaults a = [] ↔ accepts a = true := by
    unfold Settings.bindFaults
    split
    · rename_i ha
      simp [ha, hempty]
    · split <;> simp_all
  rw [haccepts, accepts]
  constructor
  · intro h
    split at h
    · rename_i host port hcut
      obtain ⟨p, hp⟩ := Option.isSome_iff_exists.mp (Bool.and_eq_true_iff.mp h).2
      exact ⟨host, port, p, cut_iff.mp ⟨hcut, hp⟩⟩
    · contradiction
  · rintro ⟨host, port, p, hs, hport⟩
    obtain ⟨hcut, hp⟩ := cut_iff.mpr ⟨hs, hport⟩
    have hne : host ≠ [] := by
      rintro rfl
      exact normalize_hosted a port hs
    rw [hcut]
    simp [hne, hp]

variable {a} {host port : List Char} {p : UInt16}

theorem isUnmarked_host_iff (hs : (normalize a).toList = host ++ ':' :: port)
    (hport : Numeral.Denotes port p.toNat) :
    IsUnmarked host ↔ a.toList.count ':' = 1 ∧ '[' ∉ a.toList ∧ ']' ∉ a.toList := by
  obtain ⟨hcolon, hopen, hclose⟩ := port_unmarked hport
  have hcount : ∀ c, "0.0.0.0".toList.count c = 0 →
      a.toList.count c = host.count c + (':' :: port).count c := fun c hc => by
    rw [← count_normalize a hc, hs, List.count_append]
  rw [IsUnmarked]
  simp only [← List.count_eq_zero] at *
  rw [hcount ':' rfl, hcount '[' rfl, hcount ']' rfl, List.count_cons_self,
    List.count_cons_of_ne (by decide), List.count_cons_of_ne (by decide), hcolon, hopen, hclose]
  omega

end Check

end BindAddress

/-! ## The listener's reader -/

theorem Text.cut?_eq_some {mark s a b : List Char} (h : cut? mark s = some (a, b)) :
    s = a ++ mark ++ b := by
  induction s generalizing a with
  | nil =>
    unfold cut? at h
    split at h
    · rename_i hmark
      obtain ⟨rfl, rfl⟩ := Prod.mk.inj (Option.some.inj h)
      rw [hmark]
      rfl
    · contradiction
  | cons c s ih =>
    unfold cut? at h
    split at h
    · rename_i hmark
      obtain ⟨rfl, rfl⟩ := Prod.mk.inj (Option.some.inj h)
      exact (List.prefix_iff_eq_append.mp (List.isPrefixOf_iff_prefix.mp hmark)).symm
    · obtain ⟨⟨front, back⟩, hcut, heq⟩ := Option.map_eq_some_iff.mp h
      obtain ⟨rfl, rfl⟩ := Prod.mk.inj heq
      rw [ih hcut, List.cons_append, List.cons_append]

def BindFailure.IsUnread (f : BindFailure) : Prop := f = .invalidSocketAddress ∨ f = .invalidPort

namespace Socket

theorem foldl_digits (ds : List Char) (value : Nat) :
    ds.foldl (fun n c => n * 10 + (c.toNat - 48)) value = Nat.ofDigitChars 10 ds value := by
  induction ds generalizing value with
  | nil => rfl
  | cons c ds ih => rw [List.foldl_cons, ih, Numeral.ofDigitChars_step]

theorem port?_denotes {s : List Char} {p : UInt16} (h : port? s = some p) :
    Numeral.Denotes s p.toNat := by
  unfold port? at h
  split at h
  · rename_i hs
    dsimp only at h
    split at h
    · rename_i hlt
      obtain rfl := Option.some.inj h
      refine ⟨s, hs.1, List.all_eq_true.mp hs.2, Or.inl rfl, ?_⟩
      rw [Nat.toUInt16, UInt16.toNat_ofNat_of_lt' hlt, foldl_digits]
    · contradiction
  · contradiction

theorem parse?_endpoint {s : List Char} {socket : Socket} (h : parse? s = some socket) :
    BindAddress.IsEndpoint s := by
  obtain ⟨⟨host, port⟩, hcut, h⟩ := Option.bind_eq_some_iff.mp h
  dsimp only at h
  obtain ⟨p, hport, h⟩ := Option.bind_eq_some_iff.mp h
  refine ⟨host, port, p, (Text.cutLast?_eq_some hcut).1, ?_, port?_denotes hport⟩
  split at h
  · rename_i rest _
    split at h
    · rename_i hlast
      have hinner : rest = rest.dropLast ++ [']'] :=
        (List.dropLast_append_getLast? ']' hlast).symm
      rw [hinner]
      refine .bracketed ⟨rest.dropLast, rfl, ?_⟩
      split at h
      · rename_i a scope hscope
        split at h
        · rename_i hdigits
          obtain ⟨six, hsix, -⟩ := Option.bind_eq_some_iff.mp h
          rw [Text.cut?_eq_some hscope, List.append_assoc]
          exact .scoped hsix hdigits
        · contradiction
      · obtain ⟨six, hsix, -⟩ := Option.bind_eq_some_iff.mp h
        exact .plain hsix
    · contradiction
  · obtain ⟨a, ha, -⟩ := Option.bind_eq_some_iff.mp h
    exact .dotted ha

end Socket

namespace Machine

variable (m : Machine)

theorem bind_error {s : Socket} {f : BindFailure} (h : m.bind s = .error f) : ¬ f.IsUnread := by
  unfold bind at h
  split_ifs at h <;> cases h <;> simp [BindFailure.IsUnread]

theorem bindFirst_error {f g : BindFailure} {ss : List Socket} (hf : ¬ f.IsUnread)
    (h : m.bindFirst f ss = .error g) : ¬ g.IsUnread := by
  induction ss generalizing f with
  | nil => exact Except.error.inj h ▸ hf
  | cons s ss ih =>
    unfold bindFirst at h
    split at h
    · contradiction
    · rename_i hs
      exact ih (m.bind_error hs) h

theorem bindText_eq {s : String} {host port : List Char} {p : UInt16}
    (hs : s.toList = host ++ ':' :: port) (hport : Numeral.Denotes port p.toNat) :
    m.bindText s = match Socket.parse? s.toList with
      | some socket => m.bind socket
      | none => m.bindFirst .unknownHost ((m.lookup (String.ofList host)).map (⟨·, p⟩)) := by
  obtain ⟨hcut, hp⟩ := BindAddress.cut_iff.mpr ⟨hs, hport⟩
  cases hparse : Socket.parse? s.toList with
  | some socket => simp only [bindText, hparse]
  | none => simp only [bindText, hparse, hcut, hp]

/-- Whatever the machine is, it reads the texts with a port and no others. -/
theorem bindText_read_iff {s : String} :
    (∀ f, m.bindText s = .error f → ¬ f.IsUnread) ↔
      ∃ host port p, s.toList = host ++ ':' :: port ∧ Numeral.Denotes port (UInt16.toNat p) := by
  constructor
  · intro h
    cases hparse : Socket.parse? s.toList with
    | some socket =>
      obtain ⟨host, port, p, hs, -, hport⟩ := Socket.parse?_endpoint hparse
      exact ⟨host, port, p, hs, hport⟩
    | none =>
      simp only [bindText, hparse] at h
      split at h
      · exact absurd (Or.inl rfl) (h _ rfl)
      · rename_i host port hcut
        split at h
        · exact absurd (Or.inr rfl) (h _ rfl)
        · rename_i p hp
          exact ⟨host, port, p, BindAddress.cut_iff.mp ⟨hcut, hp⟩⟩
  · rintro ⟨host, port, p, hs, hport⟩ f hf
    rw [m.bindText_eq hs hport] at hf
    split at hf
    · exact m.bind_error hf
    · exact m.bindFirst_error (by simp [BindFailure.IsUnread]) hf

end Machine

namespace BindAddress

/-- The check finds a fault exactly where the listener could not read the text, whatever the
machine. Endpoints have none, but they are not all that has none: it is not asked whether the
host is one. Where it has brackets of its own or one more colon, the machine is to look it up as
a name. -/
theorem bindFaults_endpoint_iff (a : String) :
    (∀ m : Machine, Settings.bindFaults a = [] ↔
      ∀ f, m.bindText (normalize a) = .error f → ¬ f.IsUnread) ∧
    (IsEndpoint (normalize a).toList → Settings.bindFaults a = []) ∧
    (Settings.bindFaults a = [] → ∃ host port p, (normalize a).toList = host ++ ':' :: port ∧
      host ≠ [] ∧ Numeral.Denotes port (UInt16.toNat p) ∧
      (IsEndpoint (normalize a).toList ↔
        IsBracketed host ∨ a.toList.count ':' = 1 ∧ '[' ∉ a.toList ∧ ']' ∉ a.toList) ∧
      (¬ IsEndpoint (normalize a).toList → ∀ m : Machine, m.bindText (normalize a) =
        m.bindFirst .unknownHost ((m.lookup (String.ofList host)).map (⟨·, p⟩)))) := by
  rw [bindFaults_eq_nil_iff]
  refine ⟨fun m => m.bindText_read_iff.symm, ?_, ?_⟩
  · rintro ⟨host, port, p, hs, -, hport⟩
    exact ⟨host, port, p, hs, hport⟩
  · rintro ⟨host, port, p, hs, hport⟩
    have hne : host ≠ [] := by
      rintro rfl
      exact normalize_hosted a port hs
    refine ⟨host, port, p, hs, hne, hport, ?_, fun hno m => ?_⟩
    · rw [isEndpoint_iff hs hport, isHost_iff, isUnmarked_host_iff hs hport]
      simp only [hne, ne_eq, not_false_eq_true, true_and]
    · rw [m.bindText_eq hs hport]
      cases hparse : Socket.parse? (normalize a).toList with
      | some socket => exact absurd (Socket.parse?_endpoint hparse) hno
      | none => rfl

theorem port_8008 : Numeral.Denotes "8008".toList (UInt16.toNat 8008) :=
  Numeral.port?_eq_some_iff.mp (by decide +kernel)

/-- An address of six without brackets begins with a colon, and so it is set behind an address
of four. The settings have no fault; the lookup of that host is what fails. -/
theorem six_unbracketed_not_endpoint :
    let s : Settings :=
      { homeserver := "localhost:8448", listener := { bindAddress := "::1:8008" } }
    s.faults = [] ∧ normalize s.listener.bindAddress = "0.0.0.0::1:8008" ∧
      ¬ IsEndpoint (normalize s.listener.bindAddress).toList ∧
      Gateway.openListener s.listener Gateway.idle =
        .error (.refused (.bind "0.0.0.0::1:8008" .unknownHost)) := by
  intro s
  have hnormal : normalize s.listener.bindAddress = "0.0.0.0::1:8008" := by decide +kernel
  have hs : (normalize s.listener.bindAddress).toList =
      "0.0.0.0::1".toList ++ ':' :: "8008".toList := by
    rw [hnormal]
    decide +kernel
  have hdefault : ({ homeserver := "localhost:8448" } : Settings).faults = [] :=
    Settings.faults_default Homeserver.parse_localhost_8448
  obtain ⟨-, hparsed, hconnections, htimeouts⟩ := Settings.faults_eq_nil_iff.mp hdefault
  have hbind : Settings.bindFaults s.listener.bindAddress = [] :=
    (bindFaults_eq_nil_iff _).mpr ⟨_, _, _, hs, port_8008⟩
  refine ⟨Settings.faults_eq_nil_iff.mpr ⟨hbind, hparsed, hconnections, htimeouts⟩, hnormal, ?_, ?_⟩
  · rw [isEndpoint_iff hs port_8008, isHost_iff]
    rintro (⟨inner, hinner, -⟩ | ⟨-, hcolon, -⟩)
    · exact absurd (List.cons.inj hinner).1 (by decide)
    · exact hcolon (by decide)
  · rw [← hnormal]
    refine Gateway.openListener_refused _ _ ?_
    rw [hnormal]
    decide +kernel

end BindAddress

end MatrixGateway
