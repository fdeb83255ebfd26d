import MatrixGateway.Proofs.DistinctKeys
import MatrixGateway.Proofs.Homeservers
import MatrixGateway.SettingsFile

/-!
# Records out of fields

A record is read field after field, in the order of the document. Where no name comes twice the
order does not matter: each part of the record is what the field under its name says, or what it
was before.
-/

set_option autoImplicit false

namespace MatrixGateway.SettingsFile

open Toml

variable {α β : Type}

/-- The field under a name decides a part of a record, and no other field touches that. -/
structure Governs (known : List (Field α)) (name : String) (part : α → β)
    (read? : Toml.Value → Option β) : Prop where
  isKnown : ∃ f ∈ known, f.name = name
  own : ∀ f ∈ known, f.name = name → ∀ p a b, read? p.value = some b →
    ∃ a', f.put p a = .ok a' ∧ part a' = b
  other : ∀ f ∈ known, f.name ≠ name → ∀ p a a', f.put p a = .ok a' → part a' = part a

def Spares (known : List (Field α)) (name : String) (part : α → β) : Prop :=
  ∀ f ∈ known, f.name ≠ name ∧ ∀ p a a', f.put p a = .ok a' → part a' = part a

section Fields

variable {γ : Type} {name other : String} {part : α → β} {read : Placed → Except Mismatch γ}
  {set : γ → α → α} {known : List (Field α)} {read? : Toml.Value → Option β}

theorem Spares.nil : Spares [] name part := fun _ hf => absurd hf List.not_mem_nil

theorem Spares.cons (hname : other ≠ name) (hset : ∀ c a, part (set c a) = part a)
    (h : Spares known name part) :
    Spares (⟨other, fun p a => (read p).map fun c => set c a⟩ :: known) name part := by
  refine List.forall_mem_cons.mpr ⟨⟨hname, fun p a a' hput => ?_⟩, h⟩
  cases hread : read p with
  | error e => simp [hread, Except.map] at hput
  | ok c =>
    obtain rfl : set c a = a' := by simpa [hread, Except.map] using hput
    exact hset c a

theorem Governs.here
    (hread : ∀ p b, read? p.value = some b → ∃ c, read p = .ok c ∧ ∀ a, part (set c a) = b)
    (h : Spares known name part) :
    Governs (⟨name, fun p a => (read p).map fun c => set c a⟩ :: known) name part read? where
  isKnown := ⟨_, List.mem_cons_self, rfl⟩
  own f hf hname p a b hb := by
    rcases List.mem_cons.mp hf with rfl | hf
    · obtain ⟨c, hc, hset⟩ := hread p b hb
      exact ⟨set c a, by simp [hc, Except.map], hset a⟩
    · exact absurd hname (h f hf).1
  other f hf hname := by
    rcases List.mem_cons.mp hf with rfl | hf
    · exact absurd rfl hname
    · exact (h f hf).2

theorem Governs.there (hname : other ≠ name) (hset : ∀ c a, part (set c a) = part a)
    (h : Governs known name part read?) :
    Governs (⟨other, fun p a => (read p).map fun c => set c a⟩ :: known) name part read? where
  isKnown := by
    obtain ⟨f, hf, hfname⟩ := h.isKnown
    exact ⟨f, List.mem_cons_of_mem _ hf, hfname⟩
  own f hf hfname := by
    rcases List.mem_cons.mp hf with rfl | hf
    · exact absurd hfname hname
    · exact h.own f hf hfname
  other f hf hfname := by
    rcases List.mem_cons.mp hf with rfl | hf
    · exact (Spares.cons hname hset .nil _ List.mem_cons_self).2
    · exact h.other f hf hfname

end Fields

variable {known : List (Field α)} {fields : Toml.Value.Fields} {field : Key × Toml.Value}

theorem readFields_unknown (h : known.find? (·.name = field.1.name) = none) (a : α) :
    readFields known (field :: fields) a = readFields known fields a := by
  simp only [readFields, h]

theorem readFields_known {f : Field α} (h : known.find? (·.name = field.1.name) = some f) (a : α) :
    readFields known (field :: fields) a =
      (f.put (.ofField field) a).bind (readFields known fields) := by
  simp only [readFields, h]
  rfl

theorem mem_of_known {name : String} {f : Field α} (h : known.find? (·.name = name) = some f) :
    f ∈ known ∧ f.name = name :=
  ⟨List.mem_of_find?_eq_some h, by simpa using List.find?_some h⟩

theorem Governs.part_readFields {name : String} {part : α → β} {read? : Toml.Value → Option β}
    (h : Governs known name part read?) (hnames : (Toml.Value.names fields).Nodup)
    (hread : ∀ v, Toml.Value.find? fields name = some v → (read? v).isSome) {a a' : α}
    (ha : readFields known fields a = .ok a') :
    part a' = ((Toml.Value.find? fields name).bind read?).getD (part a) := by
  induction fields generalizing a with
  | nil =>
    obtain rfl := Except.ok.inj ha
    rfl
  | cons field rest ih =>
    rw [Toml.Value.names_cons] at hnames
    obtain ⟨hfirst, hrest⟩ := List.nodup_cons.mp hnames
    by_cases hname : field.1.name = name
    · have hfound : Toml.Value.find? (field :: rest) name = some field.2 := by
        simp [Toml.Value.find?, hname]
      have hgone : Toml.Value.find? rest name = none :=
        Toml.Value.find?_eq_none_iff.mpr (hname ▸ hfirst)
      obtain ⟨f, hf⟩ : ∃ f, known.find? (·.name = field.1.name) = some f := by
        obtain ⟨f, hf, hfname⟩ := h.isKnown
        exact Option.isSome_iff_exists.mp
          (List.find?_isSome.mpr ⟨f, hf, by simpa [hname] using hfname⟩)
      obtain ⟨b, hb⟩ := Option.isSome_iff_exists.mp (hread field.2 hfound)
      obtain ⟨hmem, hfname⟩ := mem_of_known hf
      obtain ⟨a₁, hput, hpart⟩ := h.own f hmem (hfname.trans hname) (.ofField field) a b hb
      rw [readFields_known hf, hput] at ha
      rw [ih hrest (by simp [hgone]) ha, hgone, hfound, Option.bind_some, hb, hpart]
      rfl
    · have hskip : Toml.Value.find? (field :: rest) name = Toml.Value.find? rest name := by
        rw [Toml.Value.find?, List.find?_cons_of_neg (by simpa using hname), Toml.Value.find?]
      rw [hskip] at hread ⊢
      cases hf : known.find? (·.name = field.1.name) with
      | none =>
        rw [readFields_unknown hf] at ha
        exact ih hrest hread ha
      | some f =>
        obtain ⟨hmem, hfname⟩ := mem_of_known hf
        rw [readFields_known hf] at ha
        obtain ⟨a₁, hput, ha⟩ := bind_eq_ok ha
        rw [ih hrest hread ha, h.other f hmem (hfname ▸ hname) _ _ _ hput]

theorem readFields_isOk
    (h : ∀ field ∈ fields, ∀ f ∈ known, f.name = field.1.name → ∀ a,
      ∃ a', f.put (.ofField field) a = .ok a') (a : α) :
    ∃ a', readFields known fields a = .ok a' := by
  induction fields generalizing a with
  | nil => exact ⟨a, rfl⟩
  | cons field rest ih =>
    have hrest := ih fun field hfield => h field (List.mem_cons_of_mem _ hfield)
    cases hf : known.find? (·.name = field.1.name) with
    | none =>
      rw [readFields_unknown hf]
      exact hrest a
    | some f =>
      obtain ⟨hmem, hfname⟩ := mem_of_known hf
      obtain ⟨a₁, hput⟩ := h field List.mem_cons_self f hmem hfname a
      rw [readFields_known hf, hput]
      exact hrest a₁

end MatrixGateway.SettingsFile
