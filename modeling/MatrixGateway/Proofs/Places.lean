import MatrixGateway.Flags
import MatrixGateway.Proofs.Records

/-!
# Settings in their places

Each of the nine settings has a table and a key in a file. If what is known there has the right
types, a setting is what the file says under its key, or else its default, whatever else the file
says and in whatever order.
-/

set_option autoImplicit false

namespace MatrixGateway

open Toml SettingsFile

namespace Settings

/-! ## Settings and their places -/

/-- The tables that settings stand in, the file itself being one. -/
inductive Group where
  | root
  | listener
  | timeouts
  | bridge
  | observability
  deriving DecidableEq

namespace Group

def all : List Group := [.root, .listener, .timeouts, .bridge, .observability]

theorem mem_all (g : Group) : g ∈ all := by cases g <;> decide

abbrev Record : Group → Type
  | .root => Settings
  | .listener => Listener
  | .timeouts => Timeouts
  | .bridge => Bridge
  | .observability => Observability

def part (s : Settings) : (g : Group) → g.Record
  | .root => s
  | .listener => s.listener
  | .timeouts => s.timeouts
  | .bridge => s.bridge
  | .observability => s.observability

def known : (g : Group) → List (SettingsFile.Field g.Record)
  | .root => settingsFields
  | .listener => listenerFields
  | .timeouts => timeoutFields
  | .bridge => bridgeFields
  | .observability => observabilityFields

def key? : Group → Option String
  | .root => none
  | .listener => some "listener"
  | .timeouts => some "timeouts"
  | .bridge => some "bridge"
  | .observability => some "observability"

def fields (d : Document) (g : Group) : Toml.Value.Fields :=
  match g.key? with
  | none => d.fields
  | some key =>
    match Toml.Value.find? d.fields key with
    | some (.table _ _ fields) => fields
    | _ => []

def read? (g : Group) : Toml.Value → Option g.Record
  | .table _ _ fields => (readFields g.known fields (g.part {})).toOption
  | _ => none

theorem read?_eq_some {g : Group} {v : Toml.Value} {b : g.Record} (h : g.read? v = some b) :
    ∃ making extent fields, v = .table making extent fields ∧
      readFields g.known fields (g.part {}) = .ok b := by
  unfold read? at h
  split at h
  · rename_i making extent fields
    refine ⟨making, extent, fields, rfl, ?_⟩
    cases hread : readFields g.known fields (g.part {}) with
    | error e => simp [hread, Except.toOption] at h
    | ok c =>
      rw [hread] at h
      exact congrArg Except.ok (Option.some.inj h)
  · contradiction

theorem readRecord_of {g : Group} {p : Placed} {b : g.Record} (h : g.read? p.value = some b)
    (kind : String) : readRecord kind g.known (g.part {}) p = .ok b := by
  obtain ⟨making, extent, fields, hp, hread⟩ := read?_eq_some h
  rw [readRecord, hp]
  exact hread

theorem governs {g : Group} {key : String} (hkey : g.key? = some key) :
    Governs settingsFields key (fun s => g.part s) g.read? := by
  cases g with
  | root => contradiction
  | listener =>
    obtain rfl := Option.some.inj hkey
    exact .there (by decide) (fun _ _ => rfl)
      (.here (fun _ _ h => ⟨_, readRecord_of h _, fun _ => rfl⟩)
        (.cons (by decide) (fun _ _ => rfl) (.cons (by decide) (fun _ _ => rfl)
          (.cons (by decide) (fun _ _ => rfl) .nil))))
  | timeouts =>
    obtain rfl := Option.some.inj hkey
    exact .there (by decide) (fun _ _ => rfl) (.there (by decide) (fun _ _ => rfl)
      (.here (fun _ _ h => ⟨_, readRecord_of h _, fun _ => rfl⟩)
        (.cons (by decide) (fun _ _ => rfl) (.cons (by decide) (fun _ _ => rfl) .nil))))
  | bridge =>
    obtain rfl := Option.some.inj hkey
    exact .there (by decide) (fun _ _ => rfl) (.there (by decide) (fun _ _ => rfl)
      (.there (by decide) (fun _ _ => rfl)
        (.here (fun _ _ h => ⟨_, readRecord_of h _, fun _ => rfl⟩)
          (.cons (by decide) (fun _ _ => rfl) .nil))))
  | observability =>
    obtain rfl := Option.some.inj hkey
    exact .there (by decide) (fun _ _ => rfl) (.there (by decide) (fun _ _ => rfl)
      (.there (by decide) (fun _ _ => rfl) (.there (by decide) (fun _ _ => rfl)
        (.here (fun _ _ h => ⟨_, readRecord_of h _, fun _ => rfl⟩) .nil))))

end Group

end Settings

inductive Setting where
  | homeserver
  | bindAddress
  | maxConnections
  | readSecs
  | writeSecs
  | idleSecs
  | readHeaderSecs
  | maxBodyBytes
  | metricsAddress
  deriving DecidableEq

namespace Setting

open Settings

def all : List Setting :=
  [.homeserver, .bindAddress, .maxConnections, .readSecs, .writeSecs, .idleSecs, .readHeaderSecs,
    .maxBodyBytes, .metricsAddress]

theorem mem_all (x : Setting) : x ∈ all := by cases x <;> decide

abbrev Content : Setting → Type
  | .homeserver | .bindAddress => String
  | .metricsAddress => Option String
  | .maxConnections | .readSecs | .writeSecs | .idleSecs | .readHeaderSecs | .maxBodyBytes => UInt64

def group : Setting → Group
  | .homeserver => .root
  | .bindAddress | .maxConnections => .listener
  | .readSecs | .writeSecs | .idleSecs | .readHeaderSecs => .timeouts
  | .maxBodyBytes => .bridge
  | .metricsAddress => .observability

def key : Setting → String
  | .homeserver => "homeserver"
  | .bindAddress => "bind_address"
  | .maxConnections => "max_connections"
  | .readSecs => "read_secs"
  | .writeSecs => "write_secs"
  | .idleSecs => "idle_secs"
  | .readHeaderSecs => "read_header_secs"
  | .maxBodyBytes => "max_body_bytes"
  | .metricsAddress => "metrics_address"

def part : (x : Setting) → x.group.Record → x.Content
  | .homeserver, (s : Settings) => s.homeserver
  | .bindAddress, (l : Listener) => l.bindAddress
  | .maxConnections, (l : Listener) => l.maxConnections
  | .readSecs, (t : Timeouts) => t.readSecs
  | .writeSecs, (t : Timeouts) => t.writeSecs
  | .idleSecs, (t : Timeouts) => t.idleSecs
  | .readHeaderSecs, (t : Timeouts) => t.readHeaderSecs
  | .maxBodyBytes, (b : Settings.Bridge) => b.maxBodyBytes
  | .metricsAddress, (o : Observability) => o.metricsAddress

def get (x : Setting) (s : Settings) : x.Content := x.part (x.group.part s)

def text? : Toml.Value → Option String
  | .text _ s => some s
  | _ => none

def word? : Toml.Value → Option UInt64
  | .integer _ n => if 0 ≤ n ∧ n < UInt64.size then some n.toNat.toUInt64 else none
  | _ => none

def read? : (x : Setting) → Toml.Value → Option x.Content
  | .homeserver, v | .bindAddress, v => text? v
  | .metricsAddress, v => (text? v).map some
  | .maxConnections, v | .readSecs, v | .writeSecs, v | .idleSecs, v | .readHeaderSecs, v
  | .maxBodyBytes, v => word? v

def flagged? (f : Flags) : (x : Setting) → Option x.Content
  | .homeserver => f.homeserver
  | .bindAddress => f.httpBindAddr
  | .metricsAddress => f.metricsAddr.map some
  | .maxConnections | .readSecs | .writeSecs | .idleSecs | .readHeaderSecs | .maxBodyBytes => none

def filed? (d : Document) (x : Setting) : Option x.Content :=
  (Toml.Value.find? (x.group.fields d) x.key).bind x.read?

theorem readText_of {p : Placed} {s : String} (h : text? p.value = some s) :
    readText p = .ok s := by
  unfold text? at h
  split at h
  · rename_i heq
    obtain rfl := Option.some.inj h
    rw [readText, heq]
  · contradiction

theorem readWord_of {kind : String} {p : Placed} {n : UInt64} (h : word? p.value = some n) :
    readWord kind p = .ok n := by
  unfold word? at h
  split at h
  · rename_i heq
    split at h
    · rename_i hrange
      obtain rfl := Option.some.inj h
      rw [readWord, heq]
      exact if_pos hrange.1
    · contradiction
  · contradiction

theorem governs_text {α : Type} {name : String} {known : List (SettingsFile.Field α)}
    {part : α → String} {set : String → α → α} (hset : ∀ s a, part (set s a) = s)
    (h : Spares known name part) :
    Governs (⟨name, fun p a => (readText p).map fun s => set s a⟩ :: known) name part text? :=
  .here (fun _ _ hs => ⟨_, readText_of hs, hset _⟩) h

theorem governs_word {α : Type} {name kind : String} {known : List (SettingsFile.Field α)}
    {part : α → UInt64} {set : UInt64 → α → α} (hset : ∀ n a, part (set n a) = n)
    (h : Spares known name part) :
    Governs (⟨name, fun p a => (readWord kind p).map fun n => set n a⟩ :: known) name part word? :=
  .here (fun _ _ hn => ⟨_, readWord_of hn, hset _⟩) h

theorem governs (x : Setting) : Governs x.group.known x.key x.part x.read? := by
  cases x with
  | homeserver =>
    exact governs_text (fun _ _ => rfl) (.cons (by decide) (fun _ _ => rfl)
      (.cons (by decide) (fun _ _ => rfl) (.cons (by decide) (fun _ _ => rfl)
        (.cons (by decide) (fun _ _ => rfl) .nil))))
  | bindAddress =>
    exact governs_text (fun _ _ => rfl) (.cons (by decide) (fun _ _ => rfl) .nil)
  | maxConnections =>
    exact .there (by decide) (fun _ _ => rfl) (governs_word (fun _ _ => rfl) .nil)
  | readSecs =>
    exact governs_word (fun _ _ => rfl) (.cons (by decide) (fun _ _ => rfl)
      (.cons (by decide) (fun _ _ => rfl) (.cons (by decide) (fun _ _ => rfl) .nil)))
  | writeSecs =>
    exact .there (by decide) (fun _ _ => rfl) (governs_word (fun _ _ => rfl)
      (.cons (by decide) (fun _ _ => rfl) (.cons (by decide) (fun _ _ => rfl) .nil)))
  | idleSecs =>
    exact .there (by decide) (fun _ _ => rfl) (.there (by decide) (fun _ _ => rfl)
      (governs_word (fun _ _ => rfl) (.cons (by decide) (fun _ _ => rfl) .nil)))
  | readHeaderSecs =>
    exact .there (by decide) (fun _ _ => rfl) (.there (by decide) (fun _ _ => rfl)
      (.there (by decide) (fun _ _ => rfl) (governs_word (fun _ _ => rfl) .nil)))
  | maxBodyBytes => exact governs_word (fun _ _ => rfl) .nil
  | metricsAddress =>
    refine .here (fun p b hb => ?_) .nil
    obtain ⟨s, hs, rfl⟩ := Option.map_eq_some_iff.mp hb
    exact ⟨s, readText_of hs, fun _ => rfl⟩

theorem put_isOk (x : Setting) {f : SettingsFile.Field x.group.Record} (hf : f ∈ x.group.known)
    (hname : f.name = x.key) {p : Placed} (hp : (x.read? p.value).isSome) (a : x.group.Record) :
    ∃ a', f.put p a = .ok a' := by
  obtain ⟨b, hb⟩ := Option.isSome_iff_exists.mp hp
  obtain ⟨a', hput, -⟩ := x.governs.own f hf hname p a b hb
  exact ⟨a', hput⟩

end Setting

/-! ## Files with the right types -/

namespace Settings

def isTable : Toml.Value → Bool
  | .table .. => true
  | _ => false

theorem isTable_iff {v : Toml.Value} :
    isTable v = true ↔ ∃ making extent fields, v = .table making extent fields := by
  cases v <;> simp [isTable]

/-- Known tables are tables, and known keys in them have values of their types. Of all else a file
may say anything. -/
structure IsWellTyped (d : Document) : Prop where
  table : ∀ (g : Group) key, g.key? = some key → ∀ v, Toml.Value.find? d.fields key = some v →
    isTable v = true
  value : ∀ (x : Setting) v, Toml.Value.find? (x.group.fields d) x.key = some v →
    (x.read? v).isSome = true

instance (d : Document) : Decidable (IsWellTyped d) :=
  decidable_of_iff
    ((∀ g ∈ Group.all, (g.key?.bind (Toml.Value.find? d.fields)).all isTable = true) ∧
      ∀ x ∈ Setting.all, ((Toml.Value.find? (x.group.fields d) x.key).all
        fun v => (x.read? v).isSome) = true)
    ⟨fun ⟨htable, hvalue⟩ =>
      ⟨fun g key hkey v hv =>
          (Option.all_eq_true _ _).mp (htable g g.mem_all) v (by rw [hkey]; exact hv),
        fun x v hv => (Option.all_eq_true _ _).mp (hvalue x x.mem_all) v hv⟩,
    fun h => ⟨fun g _ => (Option.all_eq_true _ _).mpr fun v hv => by
        obtain ⟨key, hkey, hv⟩ := Option.bind_eq_some_iff.mp hv
        exact h.table g key hkey v hv,
      fun x _ => (Option.all_eq_true _ _).mpr fun v hv => h.value x v hv⟩⟩

namespace Group

theorem exists_setting {g : Group} (hg : g ≠ .root) :
    ∀ f ∈ g.known, ∃ x : Setting, x.group = g ∧ f.name = x.key := by
  cases g with
  | root => contradiction
  | listener =>
    exact List.forall_mem_cons.mpr ⟨⟨.bindAddress, rfl, rfl⟩,
      List.forall_mem_singleton.mpr ⟨.maxConnections, rfl, rfl⟩⟩
  | timeouts =>
    exact List.forall_mem_cons.mpr ⟨⟨.readSecs, rfl, rfl⟩,
      List.forall_mem_cons.mpr ⟨⟨.writeSecs, rfl, rfl⟩,
        List.forall_mem_cons.mpr ⟨⟨.idleSecs, rfl, rfl⟩,
          List.forall_mem_singleton.mpr ⟨.readHeaderSecs, rfl, rfl⟩⟩⟩⟩
  | bridge => exact List.forall_mem_singleton.mpr ⟨.maxBodyBytes, rfl, rfl⟩
  | observability => exact List.forall_mem_singleton.mpr ⟨.metricsAddress, rfl, rfl⟩

theorem key_of_known : ∀ f ∈ settingsFields,
    f.name = "homeserver" ∨ ∃ g : Group, g.key? = some f.name :=
  List.forall_mem_cons.mpr ⟨Or.inl rfl, List.forall_mem_cons.mpr ⟨Or.inr ⟨.listener, rfl⟩,
    List.forall_mem_cons.mpr ⟨Or.inr ⟨.timeouts, rfl⟩, List.forall_mem_cons.mpr
      ⟨Or.inr ⟨.bridge, rfl⟩, List.forall_mem_singleton.mpr (Or.inr ⟨.observability, rfl⟩)⟩⟩⟩⟩

theorem fields_of_key {d : Document} {g : Group} {key : String} (hkey : g.key? = some key) :
    g.fields d = match Toml.Value.find? d.fields key with
      | some (.table _ _ fields) => fields
      | _ => [] := by
  rw [fields, hkey]

end Group

section Documents

variable {d : Document} (hdistinct : d.root.IsDistinct) (htyped : IsWellTyped d)

include hdistinct in
theorem fields_isDistinct :
    ∃ making extent, Toml.Value.IsDistinct (.table making extent d.fields) := by
  unfold Document.fields
  split
  · rename_i making extent fields hroot
    exact ⟨making, extent, hroot ▸ hdistinct⟩
  · exact ⟨.header, none, .empty⟩

include hdistinct in
theorem nodup_fields (g : Group) : (Toml.Value.names (g.fields d)).Nodup := by
  obtain ⟨_, _, hfields⟩ := fields_isDistinct hdistinct
  cases hkey : g.key? with
  | none =>
    rw [Group.fields, hkey]
    exact hfields.nodup
  | some key =>
    rw [Group.fields_of_key hkey]
    split
    · rename_i hfound
      exact (hfields.found hfound).nodup
    · exact List.nodup_nil

include hdistinct htyped

theorem readFields_group {g : Group} (hg : g ≠ .root) (a : g.Record) :
    ∃ b, readFields g.known (g.fields d) a = .ok b := by
  refine readFields_isOk (fun field hfield f hf hname a => ?_) a
  obtain ⟨x, rfl, hx⟩ := Group.exists_setting hg f hf
  have hfound := Toml.Value.find?_of_mem (nodup_fields hdistinct x.group) hfield
  exact x.put_isOk hf hx (htyped.value x field.2 (by rw [← hx, hname]; exact hfound)) a

theorem read?_group {g : Group} {key : String} (hkey : g.key? = some key) {v : Toml.Value}
    (hv : Toml.Value.find? d.fields key = some v) :
    ∃ b, g.read? v = some b ∧ readFields g.known (g.fields d) (g.part {}) = .ok b := by
  obtain ⟨making, extent, fields, rfl⟩ := isTable_iff.mp (htyped.table g key hkey v hv)
  have hg : g ≠ .root := by
    rintro rfl
    contradiction
  obtain ⟨b, hb⟩ := readFields_group hdistinct htyped hg (g.part {})
  refine ⟨b, ?_, hb⟩
  rw [Group.fields_of_key hkey, hv] at hb
  simp [Group.read?, hb, Except.toOption]

theorem ofDocument_isOk : ∃ s, ofDocument d = .ok s := by
  obtain ⟨_, _, hfields⟩ := fields_isDistinct hdistinct
  refine readFields_isOk (fun field hfield f hf hname s => ?_) ({} : Settings)
  have hfound := Toml.Value.find?_of_mem hfields.nodup hfield
  rw [← hname] at hfound
  rcases Group.key_of_known f hf with hx | ⟨g, hkey⟩
  · rw [hx] at hfound
    exact Setting.homeserver.put_isOk hf hx (htyped.value .homeserver field.2 hfound) s
  · obtain ⟨b, hb, -⟩ := read?_group hdistinct htyped hkey hfound
    obtain ⟨s', hput, -⟩ := (Group.governs hkey).own f hf rfl (.ofField field) s b hb
    exact ⟨s', hput⟩

theorem part_ofDocument {s : Settings} (h : ofDocument d = .ok s) (g : Group) :
    readFields g.known (g.fields d) (g.part {}) = .ok (g.part s) := by
  cases hkey : g.key? with
  | none =>
    cases g with
    | root => exact h
    | _ => contradiction
  | some key =>
    obtain ⟨_, _, hfields⟩ := fields_isDistinct hdistinct
    have hpart := (Group.governs hkey).part_readFields hfields.nodup (fun v hv => by
      obtain ⟨b, hb, -⟩ := read?_group hdistinct htyped hkey hv
      rw [hb]
      rfl) h
    cases hfound : Toml.Value.find? d.fields key with
    | none =>
      rw [hfound] at hpart
      rw [Group.fields_of_key hkey, hfound, hpart]
      rfl
    | some v =>
      obtain ⟨b, hb, hread⟩ := read?_group hdistinct htyped hkey hfound
      rw [hfound, Option.bind_some, hb] at hpart
      rw [hread, hpart]
      rfl

theorem get_ofDocument {s : Settings} (h : ofDocument d = .ok s) (x : Setting) :
    x.get s = (x.filed? d).getD (x.get {}) :=
  x.governs.part_readFields (nodup_fields hdistinct x.group) (htyped.value x)
    (part_ofDocument hdistinct htyped h x.group)

end Documents

end Settings

end MatrixGateway
