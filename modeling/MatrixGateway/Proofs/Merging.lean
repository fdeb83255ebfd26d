import MatrixGateway.Proofs.Checks
import MatrixGateway.Proofs.Places
import MatrixGateway.Proofs.Preparation

/-!
# Loading settings

A setting that has a flag is what the flag says, if it is given. All others come from the file or
are defaults. What is then checked is what came out, never the file alone.
-/

set_option autoImplicit false

namespace MatrixGateway

open Toml SettingsFile

namespace Settings

/-! ## Flags -/

theorem get_merge (f : Flags) (s : Settings) (x : Setting) :
    x.get (f.merge s) = (x.flagged? f).getD (x.get s) := by
  cases x with
  | metricsAddress =>
    change f.metricsAddr.or _ = _
    rw [Setting.flagged?]
    cases f.metricsAddr <;> rfl
  | _ => rfl

attribute [ext] Settings Listener Timeouts Settings.Bridge Observability

theorem eq_of_get {s t : Settings} (h : ∀ x : Setting, x.get s = x.get t) : s = t :=
  Settings.ext (h .homeserver) (Listener.ext (h .bindAddress) (h .maxConnections))
    (Timeouts.ext (h .readSecs) (h .writeSecs) (h .idleSecs) (h .readHeaderSecs))
    (Bridge.ext (h .maxBodyBytes)) (Observability.ext (h .metricsAddress))

/-! ## Loading -/

def IsDocument (flags : Flags) (files : Files) (d : Document) : Prop :=
  match flags.config with
  | none => d = {}
  | some path => ∃ bytes text, files path = .ok bytes ∧ Bytes.text? bytes = some text ∧
      Document.parse text = some d

section Loading

variable {flags : Flags} {files : Files} {d : Document} (hd : IsDocument flags files d)

include hd

theorem root_isDistinct : d.root.IsDistinct := by
  unfold IsDocument at hd
  split at hd
  · obtain rfl := hd
    exact .empty
  · obtain ⟨_, _, -, -, hparse⟩ := hd
    exact Document.parse_isDistinct hparse

theorem merged_of_document {s : Settings} (hs : ofDocument d = .ok s) :
    merged flags files = .ok (flags.merge s) := by
  unfold IsDocument at hd
  unfold merged
  split at hd
  · rename_i hconfig
    obtain rfl := hd
    obtain rfl : {} = s := Except.ok.inj hs
    rw [hconfig]
  · rename_i path hconfig
    obtain ⟨bytes, text, hfile, htext, hparse⟩ := hd
    have hread : ofFile files path = .ok s := by
      simp only [ofFile, hfile, htext, SettingsFile.parse, hparse, hs]
    rw [hconfig]
    dsimp only
    rw [hread]
    rfl

/-- With the right types in the file, each setting is what its flag says, or else what the file
says under its key, or else the default, and no other settings are like that. They are loaded if
they pass all checks. Otherwise all that the failed checks find in them is told, in the order of
the checks and nothing twice. -/
theorem load_merges_then_checks (htyped : IsWellTyped d) :
    ∃ s : Settings,
      (∀ t : Settings, t = s ↔
        ∀ x : Setting, x.get t = ((x.flagged? flags).or (x.filed? d)).getD (x.get {})) ∧
      (load flags files = .ok s ↔ ∀ c : Check, c.Passes s) ∧
      ((∃ c : Check, ¬ c.Passes s) →
        load flags files = .error (.invalid (Check.all.filterMap (·.fault? s)))) ∧
      (∀ c : Check, c.fault? s = none ↔ c.Passes s) ∧
      (Check.all.filterMap (·.fault? s)).Nodup := by
  have hdistinct := root_isDistinct hd
  obtain ⟨s, hs⟩ := ofDocument_isOk hdistinct htyped
  have hmerged := merged_of_document hd hs
  have hget : ∀ x : Setting,
      x.get (flags.merge s) = ((x.flagged? flags).or (x.filed? d)).getD (x.get {}) := by
    intro x
    rw [get_merge, get_ofDocument hdistinct htyped hs x]
    cases x.flagged? flags <;> rfl
  have hfaults : (flags.merge s).faults = [] ↔ ∀ c : Check, c.Passes (flags.merge s) := by
    rw [Check.faults_eq, List.filterMap_eq_nil_iff]
    simp only [Check.fault?_eq_none_iff, Check.mem_all, forall_const]
  refine ⟨flags.merge s, fun t => ⟨?_, fun ht => ?_⟩, ?_, fun ⟨c, hc⟩ => ?_,
    Check.fault?_eq_none_iff _, Check.nodup_faults _⟩
  · rintro rfl
    exact hget
  · exact eq_of_get fun x => (ht x).trans (hget x).symm
  · rw [load_eq_ok_iff, hmerged, hfaults]
    simp
  · have hfaulty : ¬ (flags.merge s).faults = [] := fun hnone => hc (hfaults.mp hnone c)
    rw [load, hmerged, ← Check.faults_eq]
    exact if_neg hfaulty

end Loading

/-- A flag repairs what the file says of the address, and the wait that is zero remains. -/
theorem load_repaired_by_flag :
    let text := "read_secs = true\n[timeouts]\nread_secs = 0\n[listener]\nbind_address = \"\"\n"
    let flags : Flags :=
      { httpBindAddr := some ":80", homeserver := some "localhost:8448", config := some "gw.toml" }
    ∃ d, IsDocument flags (fun _ => .ok (Bytes.ofString text)) d ∧ IsWellTyped d ∧
      Setting.bindAddress.filed? d = some "" ∧
      ∃ faults, load flags (fun _ => .ok (Bytes.ofString text)) = .error (.invalid faults) ∧
        .zeroTimeout "read_secs" ∈ faults ∧ .emptyBindAddress ∉ faults := by
  intro text flags
  have htext : Bytes.text? (Bytes.ofString text) = some text.toList := by decide +kernel
  have hsaid : ((Document.parse text.toList).any fun d => decide (IsWellTyped d) &&
      decide (Setting.bindAddress.filed? d = some "") &&
      decide (Setting.readSecs.filed? d = some 0)) = true := by decide +kernel
  obtain ⟨d, hparse, hd⟩ := (Option.any_eq_true _ _).mp hsaid
  simp only [Bool.and_eq_true, decide_eq_true_eq] at hd
  obtain ⟨⟨htyped, hbind⟩, hread⟩ := hd
  have hdocument : IsDocument flags (fun _ => .ok (Bytes.ofString text)) d :=
    ⟨_, _, rfl, htext, hparse⟩
  obtain ⟨s, hsettings, -, hload, -, -⟩ := load_merges_then_checks hdocument htyped
  have hget := (hsettings s).mp rfl
  have hzero : s.timeouts.readSecs = 0 := by
    have := hget .readSecs
    rw [hread] at this
    exact this
  have haddress : s.listener.bindAddress ≠ "" := by
    have haddress : s.listener.bindAddress = ":80" := hget .bindAddress
    rw [haddress]
    decide
  refine ⟨d, hdocument, htyped, hbind, _, hload ⟨.readSecs, fun h => h hzero⟩, ?_, fun hmem => ?_⟩
  · exact List.mem_filterMap.mpr ⟨.readSecs, Check.mem_all _, if_pos hzero⟩
  · obtain ⟨c, -, hc⟩ := List.mem_filterMap.mp hmem
    obtain rfl : .bindAddress = c := Option.some.inj (Check.of?_fault s hc)
    rw [Check.fault?, if_neg haddress] at hc
    split at hc <;> simp at hc

end Settings

end MatrixGateway
