import Mathlib.Data.List.Nodup
import MatrixGateway.Settings

/-!
# Checks

Seven checks are made of the settings, each for itself. Their faults are those that the failed
ones find, in the order of the checks, and a fault tells which check has found it.
-/

set_option autoImplicit false

namespace MatrixGateway

namespace Settings

inductive Check where
  | bindAddress
  | homeserver
  | maxConnections
  | readSecs
  | writeSecs
  | idleSecs
  | readHeaderSecs
  deriving DecidableEq

namespace Check

def all : List Check :=
  [.bindAddress, .homeserver, .maxConnections, .readSecs, .writeSecs, .idleSecs, .readHeaderSecs]

def Passes (s : Settings) : Check → Prop
  | .bindAddress => s.listener.bindAddress ≠ "" ∧ BindAddress.accepts s.listener.bindAddress = true
  | .homeserver => ∃ h, Homeserver.parse s.homeserver = .ok h
  | .maxConnections => s.listener.maxConnections ≠ 0
  | .readSecs => s.timeouts.readSecs ≠ 0
  | .writeSecs => s.timeouts.writeSecs ≠ 0
  | .idleSecs => s.timeouts.idleSecs ≠ 0
  | .readHeaderSecs => s.timeouts.readHeaderSecs ≠ 0

def fault? (s : Settings) : Check → Option Fault
  | .bindAddress =>
    if s.listener.bindAddress = "" then some .emptyBindAddress
    else if BindAddress.accepts s.listener.bindAddress then none
    else some (.invalidBindAddress s.listener.bindAddress)
  | .homeserver =>
    match Homeserver.parse s.homeserver with
    | .ok _ => none
    | .error cause => some (.homeserver cause)
  | .maxConnections => if s.listener.maxConnections = 0 then some .zeroMaxConnections else none
  | .readSecs => if s.timeouts.readSecs = 0 then some (.zeroTimeout "read_secs") else none
  | .writeSecs => if s.timeouts.writeSecs = 0 then some (.zeroTimeout "write_secs") else none
  | .idleSecs => if s.timeouts.idleSecs = 0 then some (.zeroTimeout "idle_secs") else none
  | .readHeaderSecs =>
    if s.timeouts.readHeaderSecs = 0 then some (.zeroTimeout "read_header_secs") else none

variable (s : Settings)

theorem mem_all (c : Check) : c ∈ all := by cases c <;> decide

theorem fault?_eq_none_iff (c : Check) : c.fault? s = none ↔ c.Passes s := by
  cases c with
  | bindAddress =>
    simp only [fault?, Passes]
    split
    · simp [*]
    · split <;> simp [*]
  | homeserver =>
    simp only [fault?, Passes]
    split <;> simp [*]
  | _ =>
    simp only [fault?, Passes]
    split <;> simp [*]

theorem bindFaults_eq : bindFaults s.listener.bindAddress = (fault? s .bindAddress).toList := by
  rw [bindFaults, fault?]
  split
  · rfl
  · split <;> rfl

theorem homeserverFaults_eq :
    homeserverFaults s.homeserver = (fault? s .homeserver).toList := by
  rw [homeserverFaults, fault?]
  split <;> simp [*]

theorem zeroFaults_eq (l : List (String × UInt64)) :
    ((l.filter (·.2 = 0)).map fun (name, _) => Fault.zeroTimeout name) =
      l.flatMap fun p => (if p.2 = 0 then some (Fault.zeroTimeout p.1) else none).toList := by
  induction l with
  | nil => rfl
  | cons p l ih =>
    rw [List.flatMap_cons, ← ih]
    by_cases hp : p.2 = 0 <;> simp [hp]

theorem faults_eq : s.faults = all.filterMap (·.fault? s) := by
  have hconnections : (if s.listener.maxConnections = 0 then [Fault.zeroMaxConnections] else []) =
      (fault? s .maxConnections).toList := by
    rw [fault?]
    split <;> rfl
  rw [faults, bindFaults_eq, homeserverFaults_eq, hconnections, Timeouts.faults, zeroFaults_eq,
    List.filterMap_eq_flatMap_toList]
  simp [all, Timeouts.named, fault?]

def of? : Fault → Option Check
  | .emptyBindAddress | .invalidBindAddress _ => some .bindAddress
  | .homeserver _ => some .homeserver
  | .zeroMaxConnections => some .maxConnections
  | .zeroTimeout "read_secs" => some .readSecs
  | .zeroTimeout "write_secs" => some .writeSecs
  | .zeroTimeout "idle_secs" => some .idleSecs
  | .zeroTimeout "read_header_secs" => some .readHeaderSecs
  | .zeroTimeout _ => none

theorem of?_fault {c : Check} {f : Fault} (h : c.fault? s = some f) : of? f = some c := by
  cases c with
  | bindAddress =>
    rw [fault?] at h
    split at h
    · obtain rfl := Option.some.inj h
      rfl
    · split at h
      · contradiction
      · obtain rfl := Option.some.inj h
        rfl
  | homeserver =>
    rw [fault?] at h
    split at h
    · contradiction
    · obtain rfl := Option.some.inj h
      rfl
  | _ =>
    rw [fault?] at h
    split at h
    · obtain rfl := Option.some.inj h
      rfl
    · contradiction

theorem nodup_faults : (all.filterMap (·.fault? s)).Nodup :=
  List.Nodup.filterMap (fun c c' f hc hc' => by
    have hsame := (of?_fault s hc).symm.trans (of?_fault s hc')
    exact Option.some.inj hsame) (by decide)

end Check

end Settings

end MatrixGateway
