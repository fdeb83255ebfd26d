import MatrixGateway.Startup
import MatrixGateway.Proofs.Homeservers
import MatrixGateway.Proofs.Origins
import MatrixGateway.Proofs.Overlays

/-!
# Preparing a gateway

The engine is changed before the media origin is made, and still a failure
leaves it as it was: every origin of an accepted homeserver can be relayed to,
so nothing fails behind the overlay. Settings that were loaded name such a
homeserver, and then only a bad numeral stands in the way.
-/

set_option autoImplicit false

namespace MatrixGateway

/-! ## Settings that were loaded -/

namespace Settings

theorem load_eq_ok_iff {flags : Flags} {files : Files} {s : Settings} :
    load flags files = .ok s ↔ merged flags files = .ok s ∧ s.faults = [] := by
  unfold load
  constructor
  · intro h
    obtain ⟨t, hmerged, ht⟩ := bind_eq_ok h
    split at ht
    · rename_i hfaults
      obtain rfl := Except.ok.inj ht
      exact ⟨hmerged, hfaults⟩
    · contradiction
  · rintro ⟨hmerged, hfaults⟩
    rw [hmerged]
    exact if_pos hfaults

theorem load_parsed {flags : Flags} {files : Files} {s : Settings}
    (hs : load flags files = .ok s) : ∃ h, Homeserver.parse s.homeserver = .ok h := by
  obtain ⟨-, hfaults⟩ := load_eq_ok_iff.mp hs
  have hnone : homeserverFaults s.homeserver = [] := by
    simp only [faults, List.append_eq_nil_iff] at hfaults
    exact hfaults.1.1.2
  unfold homeserverFaults at hnone
  split at hnone
  · rename_i h hh
    exact ⟨h, hh⟩
  · contradiction

/-- All the defaults pass, but for the homeserver, which has none. -/
theorem faults_default {address : String} {h : Homeserver}
    (hh : Homeserver.parse address = .ok h) :
    ({ homeserver := address } : Settings).faults = [] := by
  have hbind : bindFaults ":8008" = [] := by decide +kernel
  have hconnections : (10000 : UInt64) ≠ 0 := UInt64.toNat_inj.not.mp (by decide)
  have htimeouts : ({} : Timeouts).faults = [] := by decide
  rw [faults, hbind, htimeouts, if_neg hconnections, homeserverFaults, hh]
  rfl

theorem faults_eq_nil_iff {s : Settings} : s.faults = [] ↔
    bindFaults s.listener.bindAddress = [] ∧ homeserverFaults s.homeserver = [] ∧
      s.listener.maxConnections ≠ 0 ∧ s.timeouts.faults = [] := by
  have hzero : (if s.listener.maxConnections = 0 then [Fault.zeroMaxConnections] else []) = [] ↔
      s.listener.maxConnections ≠ 0 := by
    split <;> simp [*]
  simp only [faults, List.append_eq_nil_iff, hzero, and_assoc]

theorem faults_timeouts {s t : Settings} (hs : s.faults = []) (hlistener : t.listener = s.listener)
    (hhomeserver : t.homeserver = s.homeserver) (ht : t.timeouts.faults = []) : t.faults = [] := by
  rw [faults_eq_nil_iff, hlistener, hhomeserver]
  obtain ⟨hbind, hparsed, hconnections, -⟩ := faults_eq_nil_iff.mp hs
  exact ⟨hbind, hparsed, hconnections, ht⟩

theorem faults_maxConnections {s : Settings} (h : s.faults = []) {n : UInt64} (hn : n ≠ 0) :
    ({ s with listener := { s.listener with maxConnections := n } } : Settings).faults = [] := by
  obtain ⟨hbind, hparsed, -, htimeouts⟩ := faults_eq_nil_iff.mp h
  exact faults_eq_nil_iff.mpr ⟨hbind, hparsed, hn, htimeouts⟩

theorem load_default {address : String} {h : Homeserver} (files : Files)
    (hh : Homeserver.parse address = .ok h) :
    load { homeserver := some address } files = .ok { homeserver := address } :=
  load_eq_ok_iff.mpr ⟨rfl, faults_default hh⟩

end Settings

/-! ## The overlay and the media origin -/

theorem Homeserver.exists_mediaOrigin {address : String} {h : Homeserver}
    (hh : Homeserver.parse address = .ok h) : ∃ o, MediaOrigin.ofUrl h.origin = .ok o := by
  obtain ⟨-, -, -, -, -, -, horigin⟩ := Homeserver.parse_checked hh
  obtain ⟨-, _, _, hparts⟩ := Homeserver.parse_parts hh
  obtain ⟨n, -, hbare⟩ := hparts.origin
  have hhttp : h.origin.isHttp = true := by
    rw [hbare]
    rfl
  exact MediaOrigin.exists_ofUrl horigin hhttp

theorem Transport.Engine.overlay_answer (e : Engine) (env : Environment) :
    (∃ cause, e.overlay env = (e, .error cause)) ∨
      ∃ after, e.overlay env = (after, .ok after.active) ∧
        after.replacements = e.replacements + if Override.isSilent env then 0 else 1 := by
  cases hr : Override.isRefused env with
  | true =>
    obtain ⟨o, value, cause, -, -, ho⟩ := overlay_refused e env hr
    exact Or.inl ⟨_, ho⟩
  | false =>
    obtain ⟨q, ho, -⟩ := overlay_fields e env hr
    cases hs : Override.isSilent env with
    | true => exact Or.inr ⟨e, by rw [ho, hs]; rfl, rfl⟩
    | false => exact Or.inr ⟨e.replace q, by rw [ho, hs]; rfl, rfl⟩

namespace Gateway

open Transport

variable (s : Settings) (engine : Engine) (env : Environment)

theorem prepare_unparsed {cause : HomeserverError}
    (h : Homeserver.parse s.homeserver = .error cause) :
    prepare s engine env = (engine, .error (.homeserver cause)) := by
  unfold prepare
  rw [h]

theorem prepare_parsed {h : Homeserver} (hh : Homeserver.parse s.homeserver = .ok h) :
    ∃ media, MediaOrigin.ofUrl h.origin = .ok media ∧ prepare s engine env =
      match engine.overlay env with
      | (after, .error cause) => (after, .error (.overlay cause))
      | (after, .ok params) => (after, .ok ⟨s, h, params, media⟩) := by
  obtain ⟨media, hmedia⟩ := Homeserver.exists_mediaOrigin hh
  refine ⟨media, hmedia, ?_⟩
  unfold prepare
  rcases engine.overlay env with ⟨after, cause | params⟩ <;> simp only [hh, hmedia]

theorem prepare_answer :
    (∃ cause, prepare s engine env = (engine, .error cause)) ∨
      ∃ after g, prepare s engine env = (after, .ok g) ∧ g.params = after.active ∧
        after.replacements = engine.replacements + if Override.isSilent env then 0 else 1 := by
  cases hh : Homeserver.parse s.homeserver with
  | error cause => exact Or.inl ⟨_, prepare_unparsed s engine env hh⟩
  | ok h =>
    obtain ⟨media, -, hp⟩ := prepare_parsed s engine env hh
    rcases engine.overlay_answer env with ⟨cause, ho⟩ | ⟨after, ho, hcount⟩
    · exact Or.inl ⟨_, by rw [hp, ho]⟩
    · exact Or.inr ⟨after, _, by rw [hp, ho], rfl, hcount⟩

theorem prepare_loaded {flags : Flags} {files : Settings.Files}
    (hs : Settings.load flags files = .ok s) :
    if Override.isRefused env then
      ∃ o : Override, ∃ value cause, o.present? env = some value ∧ o.parse value = .error cause ∧
        prepare s engine env = (engine, .error (.overlay ⟨o.name, value, cause⟩))
    else ∃ after g, prepare s engine env = (after, .ok g) := by
  obtain ⟨h, hh⟩ := Settings.load_parsed hs
  obtain ⟨media, -, hp⟩ := prepare_parsed s engine env hh
  cases hr : Override.isRefused env with
  | true =>
    obtain ⟨o, value, cause, hpresent, hparse, ho⟩ := engine.overlay_refused env hr
    exact ⟨o, value, cause, hpresent, hparse, by rw [hp, ho]⟩
  | false =>
    obtain ⟨q, ho, -⟩ := engine.overlay_fields env hr
    rw [hp, ho]
    cases Override.isSilent env <;> exact ⟨_, _, rfl⟩

/-- A preparation that fails leaves the engine as it was, since no accepted homeserver is
refused as a media origin; one that succeeds replaced the record at most once, and holds the
parameters in force. From settings that were loaded it fails for a bad numeral alone. -/
theorem prepare_all_or_nothing :
    (∀ after cause, prepare s engine env = (after, .error cause) → after = engine) ∧
    (∀ after g, prepare s engine env = (after, .ok g) → g.params = after.active ∧
      after.replacements = engine.replacements + if Override.isSilent env then 0 else 1) ∧
    (∀ address h, Homeserver.parse address = .ok h → ∃ o, MediaOrigin.ofUrl h.origin = .ok o) ∧
    (∀ flags files, Settings.load flags files = .ok s →
      if Override.isRefused env then
        ∃ o : Override, ∃ value cause, o.present? env = some value ∧
          o.parse value = .error cause ∧
          prepare s engine env = (engine, .error (.overlay ⟨o.name, value, cause⟩))
      else ∃ after g, prepare s engine env = (after, .ok g)) := by
  refine ⟨fun after cause hp => ?_, fun after g hp => ?_,
    fun _ _ hh => Homeserver.exists_mediaOrigin hh, fun _ _ hs => prepare_loaded s engine env hs⟩
  · rcases prepare_answer s engine env with ⟨_, hfail⟩ | ⟨_, _, hok, -⟩
    · rw [hfail] at hp
      exact (Prod.mk.inj hp).1.symm
    · rw [hok] at hp
      simp at hp
  · rcases prepare_answer s engine env with ⟨_, hfail⟩ | ⟨_, _, hok, hanswer⟩
    · rw [hfail] at hp
      simp at hp
    · rw [hok] at hp
      obtain ⟨rfl, hg⟩ := Prod.mk.inj hp
      obtain rfl := Except.ok.inj hg
      exact hanswer

theorem prepare_refused_at_localhost :
    Settings.load { homeserver := some "localhost:8448" } (fun _ => .error .notFound) =
        .ok { homeserver := "localhost:8448" } ∧
      ∃ cause, prepare { homeserver := "localhost:8448" } ⟨{}, 0⟩
        (fun name => if name = "LB_OBSERVE_BUFFER_SIZE" then some "-1" else none) =
          (⟨{}, 0⟩, .error (.overlay cause)) := by
  have hparsed :
      Homeserver.parse "localhost:8448" = .ok (Homeserver.localhost "localhost:8448" 8448) :=
    Homeserver.parse_localhost (by decide) rfl rfl rfl
  have hload := Settings.load_default (fun _ => .error .notFound) hparsed
  have hrefused := (prepare_all_or_nothing { homeserver := "localhost:8448" } ⟨{}, 0⟩
    fun name => if name = "LB_OBSERVE_BUFFER_SIZE" then some "-1" else none).2.2.2 _ _ hload
  rw [if_pos (by decide +kernel)] at hrefused
  obtain ⟨o, value, cause, -, -, hp⟩ := hrefused
  exact ⟨hload, _, hp⟩

end Gateway

end MatrixGateway
