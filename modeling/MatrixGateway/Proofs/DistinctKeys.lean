import Mathlib.Data.List.Nodup
import MatrixGateway.Toml.Document

/-!
# Keys of a document

A document that is read gives no key twice: no table in it has two fields of one name, however
deep it lies. Every way in which a table grows keeps that, since a new field is only put where
none of its name is, and an old one keeps its name.
-/

set_option autoImplicit false

namespace MatrixGateway.Toml

namespace Value

/-! ## Fields by name -/

def names (fields : Fields) : List String := fields.map (·.1.name)

variable {fields : Fields} {name : String}

theorem names_cons (field : Key × Value) :
    names (field :: fields) = field.1.name :: names fields := rfl

theorem find?_eq_none_iff : find? fields name = none ↔ name ∉ names fields := by
  simp [find?, names]

theorem mem_of_find? {v : Value} (h : find? fields name = some v) :
    ∃ k, (k, v) ∈ fields ∧ k.name = name := by
  obtain ⟨field, hfield, rfl⟩ := Option.map_eq_some_iff.mp h
  exact ⟨field.1, List.mem_of_find?_eq_some hfield, by simpa using List.find?_some hfield⟩

theorem find?_of_mem (hnames : (names fields).Nodup) {field : Key × Value} (h : field ∈ fields) :
    find? fields field.1.name = some field.2 := by
  induction fields with
  | nil => contradiction
  | cons first rest ih =>
    rw [names_cons] at hnames
    obtain ⟨hfirst, hrest⟩ := List.nodup_cons.mp hnames
    rcases List.mem_cons.mp h with rfl | h
    · simp [find?]
    · have hne : first.1.name ≠ field.1.name := fun heq =>
        hfirst (heq ▸ List.mem_map_of_mem h)
      rw [← ih hrest h, find?, List.find?_cons_of_neg (by simpa using hne), find?]

theorem names_replace (v : Value) : names (replace fields name v) = names fields := by
  rw [names, names, replace, List.map_map]
  refine List.map_congr_left fun ⟨k, old⟩ _ => ?_
  by_cases hname : k.name = name <;> simp [hname]

theorem mem_replace {v : Value} {field : Key × Value} (h : field ∈ replace fields name v) :
    field ∈ fields ∨ field.2 = v := by
  obtain ⟨⟨k, old⟩, hold, rfl⟩ := List.mem_map.mp h
  by_cases hname : k.name = name
  · exact Or.inr (by simp [hname])
  · exact Or.inl (by simpa [hname] using hold)

/-! ## Values without a key given twice -/

inductive IsDistinct : Value → Prop
  | text (extent : Extent) (s : String) : IsDistinct (.text extent s)
  | integer (extent : Extent) (n : Int) : IsDistinct (.integer extent n)
  | real (extent : Extent) (x : Real) : IsDistinct (.real extent x)
  | boolean (extent : Extent) (b : Bool) : IsDistinct (.boolean extent b)
  | moment (extent : Extent) : IsDistinct (.moment extent)
  | array (extent : Extent) {items : List Value} (h : ∀ v ∈ items, IsDistinct v) :
    IsDistinct (.array extent items)
  | tables {items : List Value} (h : ∀ v ∈ items, IsDistinct v) : IsDistinct (.tables items)
  | table (making : Making) (extent : Option Extent) {fields : Fields}
    (hnames : (names fields).Nodup) (h : ∀ field ∈ fields, IsDistinct field.2) :
    IsDistinct (.table making extent fields)

namespace IsDistinct

variable {making : Making} {extent : Option Extent}

theorem nodup (h : IsDistinct (.table making extent fields)) : (names fields).Nodup := by
  cases h
  assumption

theorem field (h : IsDistinct (.table making extent fields)) :
    ∀ field ∈ fields, IsDistinct field.2 := by
  cases h
  assumption

theorem item {items : List Value} (h : IsDistinct (.tables items)) :
    ∀ v ∈ items, IsDistinct v := by
  cases h
  assumption

theorem found (h : IsDistinct (.table making extent fields)) {v : Value}
    (hv : find? fields name = some v) : IsDistinct v := by
  obtain ⟨k, hk, -⟩ := mem_of_find? hv
  exact h.field _ hk

theorem empty : IsDistinct (.table making extent []) :=
  .table making extent List.nodup_nil (by simp)

theorem append (h : IsDistinct (.table making extent fields)) {k : Key} {v : Value}
    (hnew : find? fields k.name = none) (hv : IsDistinct v) :
    IsDistinct (.table making extent (fields ++ [(k, v)])) := by
  refine .table making extent ?_ fun field hfield => ?_
  · rw [names, List.map_append, List.map_singleton, List.nodup_append]
    refine ⟨h.nodup, List.nodup_singleton _, fun a ha b hb => ?_⟩
    obtain rfl := List.mem_singleton.mp hb
    exact fun hab => find?_eq_none_iff.mp hnew (hab ▸ ha)
  · rcases List.mem_append.mp hfield with hold | hnew
    · exact h.field field hold
    · obtain rfl := List.mem_singleton.mp hnew
      exact hv

theorem replace (h : IsDistinct (.table making extent fields)) {v : Value} (hv : IsDistinct v) :
    IsDistinct (.table making extent (Value.replace fields name v)) := by
  refine .table making extent (by rw [names_replace]; exact h.nodup) fun field hfield => ?_
  rcases mem_replace hfield with hold | hnew
  · exact h.field field hold
  · exact hnew ▸ hv

theorem remove (h : IsDistinct (.table making extent fields)) :
    IsDistinct (.table making extent (Value.remove fields name)) :=
  .table making extent ((List.filter_sublist.map _).nodup h.nodup) fun field hfield =>
    h.field field (List.mem_filter.mp hfield).1

end IsDistinct

theorem find?_remove : find? (remove fields name) name = none := by
  rw [find?_eq_none_iff]
  simp [names, remove]

/-! ## Growing tables -/

/-- What is found at the end of a path may be changed by anything that gives no key twice. -/
theorem update_isDistinct {dotted : Bool} {change : Value → Option Value}
    (hchange : ∀ t t', IsDistinct t → change t = some t' → IsDistinct t') {path : List Key}
    {t t' : Value} (h : IsDistinct t) (hu : update dotted change path t = some t') :
    IsDistinct t' := by
  induction path generalizing t t' with
  | nil => exact hchange t t' h hu
  | cons k path ih =>
    cases t with
    | table making extent fields =>
      rw [update] at hu
      cases hfind : find? fields k.name with
      | none =>
        rw [hfind] at hu
        obtain ⟨child, hchild, hnew⟩ := Option.bind_eq_some_iff.mp hu
        obtain rfl := Option.some.inj hnew
        exact h.append hfind (ih .empty hchild)
      | some v =>
        rw [hfind] at hu
        have hv := h.found hfind
        cases v with
        | table m e fs =>
          dsimp only at hu
          split at hu
          · obtain ⟨child, hchild, hnew⟩ := Option.bind_eq_some_iff.mp hu
            obtain rfl := Option.some.inj hnew
            exact h.replace (ih hv hchild)
          · contradiction
        | tables items =>
          obtain ⟨last, hlast, hu⟩ := Option.bind_eq_some_iff.mp hu
          obtain ⟨child, hchild, hnew⟩ := Option.bind_eq_some_iff.mp hu
          obtain rfl := Option.some.inj hnew
          have hchild := ih (hv.item last (List.mem_of_getLast? hlast)) hchild
          refine h.replace (.tables fun v hv' => ?_)
          rcases List.mem_append.mp hv' with hold | hnew
          · exact hv.item v (List.dropLast_subset items hold)
          · exact List.mem_singleton.mp hnew ▸ hchild
        | _ => contradiction
    | _ => contradiction

theorem put_isDistinct {dotted : Bool} {k : Key} {v t t' : Value} (hv : IsDistinct v)
    (h : IsDistinct t) (hp : put dotted k v t = some t') : IsDistinct t' := by
  cases t with
  | table making extent fields =>
    rw [put] at hp
    split at hp
    · rename_i hfree
      obtain rfl := Option.some.inj hp
      exact h.append (Option.isNone_iff_eq_none.mp hfree.2) hv
    · contradiction
  | _ => contradiction

theorem insert_isDistinct {path : List Key} {k : Key} {v t t' : Value} (hv : IsDistinct v)
    (h : IsDistinct t) (hi : t.insert path k v = some t') : IsDistinct t' :=
  update_isDistinct (fun _ _ => put_isDistinct hv) h hi

theorem openTable_isDistinct {k : Key} {header : Extent} {t t' : Value} (h : IsDistinct t)
    (ho : openTable k header t = some t') : IsDistinct t' := by
  cases t with
  | table making extent fields =>
    rw [openTable] at ho
    cases hfind : find? fields k.name with
    | none =>
      rw [hfind] at ho
      obtain rfl := Option.some.inj ho
      exact h.append hfind .empty
    | some v =>
      rw [hfind] at ho
      have hv := h.found hfind
      split at ho
      · contradiction
      · rename_i fs heq
        obtain rfl := Option.some.inj heq
        obtain rfl := Option.some.inj ho
        exact h.remove.append find?_remove (.table _ _ hv.nodup hv.field)
      · contradiction
  | _ => contradiction

theorem openItem_isDistinct {k : Key} {header : Extent} {t t' : Value} (h : IsDistinct t)
    (ho : openItem k header t = some t') : IsDistinct t' := by
  cases t with
  | table making extent fields =>
    rw [openItem] at ho
    cases hfind : find? fields k.name with
    | none =>
      rw [hfind] at ho
      obtain rfl := Option.some.inj ho
      refine h.append hfind (.tables fun v hv => ?_)
      obtain rfl := List.mem_singleton.mp hv
      exact .empty
    | some v =>
      rw [hfind] at ho
      have hv := h.found hfind
      cases v with
      | tables items =>
        obtain rfl := Option.some.inj ho
        refine h.replace (.tables fun v hv' => ?_)
        rcases List.mem_append.mp hv' with hold | hnew
        · exact hv.item v hold
        · obtain rfl := List.mem_singleton.mp hnew
          exact .empty
      | _ => contradiction
  | _ => contradiction

theorem reach_isDistinct {t : Value} (h : IsDistinct t) (v : Value) : IsDistinct (t.reach v) := by
  unfold reach
  split
  · exact .table _ _ h.nodup h.field
  · exact h

end Value

/-! ## Values as they are read -/

section Grammar

theorem foldlM_keeps {α β : Type} {f : β → α → Option β} {P : β → Prop} {l : List α}
    (hf : ∀ a ∈ l, ∀ b b', P b → f b a = some b' → P b') {b b' : β} (hb : P b)
    (h : l.foldlM f b = some b') : P b' := by
  induction l generalizing b with
  | nil => exact Option.some.inj h ▸ hb
  | cons a l ih =>
    rw [List.foldlM_cons] at h
    obtain ⟨c, hc, hrest⟩ := Option.bind_eq_some_iff.mp h
    exact ih (fun a' ha' => hf a' (List.mem_cons_of_mem a ha'))
      (hf a List.mem_cons_self b c hb hc) hrest

variable {element : Step Value}
  (helement : ∀ s v r, element s = some (v, r) → v.IsDistinct)

include helement

theorem elements_isDistinct {fuel : Nat} {s tail : List Char} {vs : List Value}
    (h : elements element fuel s = some (vs, tail)) : ∀ v ∈ vs, v.IsDistinct := by
  induction fuel generalizing s tail vs with
  | zero => contradiction
  | succ fuel ih =>
    obtain ⟨s', -, h⟩ := Option.bind_eq_some_iff.mp h
    split at h
    · obtain ⟨rfl, -⟩ := Prod.mk.inj (Option.some.inj h)
      simp
    · obtain ⟨⟨v, r⟩, hv, h⟩ := Option.bind_eq_some_iff.mp h
      obtain ⟨r', -, h⟩ := Option.bind_eq_some_iff.mp h
      have hfirst := helement _ _ _ hv
      split at h
      · obtain ⟨rfl, -⟩ := Prod.mk.inj (Option.some.inj h)
        simpa using hfirst
      · obtain ⟨⟨rest, _⟩, hrest, h⟩ := Option.bind_eq_some_iff.mp h
        obtain ⟨rfl, -⟩ := Prod.mk.inj (Option.some.inj h)
        exact List.forall_mem_cons.mpr ⟨hfirst, ih hrest⟩
      · contradiction

theorem pair_isDistinct {s tail : List Char} {path : List Key} {k : Key} {v : Value}
    (h : pair element s = some ((path, k, v), tail)) : v.IsDistinct := by
  obtain ⟨⟨keys, r⟩, -, h⟩ := Option.bind_eq_some_iff.mp h
  obtain ⟨_, -, h⟩ := Option.bind_eq_some_iff.mp h
  dsimp only at h
  split at h
  · obtain ⟨_, hv, h⟩ := Option.bind_eq_some_iff.mp h
    obtain ⟨hp, -⟩ := Prod.mk.inj (Option.some.inj h)
    obtain ⟨-, hp⟩ := Prod.mk.inj hp
    obtain ⟨-, rfl⟩ := Prod.mk.inj hp
    exact helement _ _ _ hv
  · contradiction

theorem pairs_isDistinct {fuel : Nat} {s tail : List Char} {ps : List (List Key × Key × Value)}
    (h : pairs element fuel s = some (ps, tail)) : ∀ p ∈ ps, p.2.2.IsDistinct := by
  induction fuel generalizing s tail ps with
  | zero => contradiction
  | succ fuel ih =>
    obtain ⟨⟨p, r⟩, hp, h⟩ := Option.bind_eq_some_iff.mp h
    have hfirst : p.2.2.IsDistinct := pair_isDistinct helement hp
    dsimp only at h
    split at h
    · obtain ⟨rfl, -⟩ := Prod.mk.inj (Option.some.inj h)
      simpa using hfirst
    · obtain ⟨⟨rest, _⟩, hrest, h⟩ := Option.bind_eq_some_iff.mp h
      obtain ⟨rfl, -⟩ := Prod.mk.inj (Option.some.inj h)
      exact List.forall_mem_cons.mpr ⟨hfirst, ih hrest⟩
    · contradiction

theorem braced_isDistinct {s tail : List Char} {ps : List (List Key × Key × Value)}
    (h : braced element s = some (ps, tail)) : ∀ p ∈ ps, p.2.2.IsDistinct := by
  unfold braced at h
  split at h
  · obtain ⟨rfl, -⟩ := Prod.mk.inj (Option.some.inj h)
    simp
  · exact pairs_isDistinct helement h

end Grammar

theorem fieldsOf_isDistinct {ps : List (List Key × Key × Value)} {fields : Value.Fields}
    (hps : ∀ p ∈ ps, p.2.2.IsDistinct) (h : fieldsOf ps = some fields) (extent : Option Extent) :
    Value.IsDistinct (.table .braces extent fields) := by
  obtain ⟨t, ht, h⟩ := Option.bind_eq_some_iff.mp h
  have hdistinct : t.IsDistinct :=
    foldlM_keeps (fun p hp _ _ hb hi => Value.insert_isDistinct (hps p hp) hb hi) .empty ht
  split at h
  · obtain rfl := Option.some.inj h
    exact .table _ _ hdistinct.nodup hdistinct.field
  · contradiction

theorem value_isDistinct {depth : Nat} {s tail : List Char} {v : Value}
    (h : value depth s = some (v, tail)) : v.IsDistinct := by
  induction depth using Nat.strongRecOn generalizing s tail v with
  | ind depth ih =>
    unfold value at h
    dsimp only at h
    split at h
    · cases depth with
      | zero => contradiction
      | succ depth =>
        obtain ⟨⟨vs, r⟩, hvs, hv⟩ := Option.map_eq_some_iff.mp h
        obtain ⟨rfl, -⟩ := Prod.mk.inj hv
        exact .array _ (elements_isDistinct (fun _ _ _ => ih depth depth.lt_succ_self) hvs)
    · cases depth with
      | zero => contradiction
      | succ depth =>
        obtain ⟨⟨ps, r⟩, hps, h⟩ := Option.bind_eq_some_iff.mp h
        obtain ⟨fields, hfields, h⟩ := Option.bind_eq_some_iff.mp h
        obtain ⟨rfl, -⟩ := Prod.mk.inj (Option.some.inj h)
        exact fieldsOf_isDistinct
          (braced_isDistinct (fun _ _ _ => ih depth depth.lt_succ_self) hps) hfields _
    · split at h
      · obtain ⟨rfl, -⟩ := Prod.mk.inj (Option.some.inj h)
        exact .text ..
      · obtain ⟨rfl, -⟩ := Prod.mk.inj (Option.some.inj h)
        exact .boolean ..
      · obtain ⟨rfl, -⟩ := Prod.mk.inj (Option.some.inj h)
        exact .boolean ..
      · split at h
        · obtain ⟨rfl, -⟩ := Prod.mk.inj (Option.some.inj h)
          exact .moment _
        · split at h
          · obtain ⟨rfl, -⟩ := Prod.mk.inj (Option.some.inj h)
            exact .real ..
          · obtain ⟨_, -, hv⟩ := Option.map_eq_some_iff.mp h
            obtain ⟨rfl, -⟩ := Prod.mk.inj hv
            exact .integer ..

/-! ## Documents -/

def Statement.IsDistinct : Statement → Prop
  | .pair _ _ v => v.IsDistinct
  | .header .. | .item .. => True

theorem statement_isDistinct {s tail : List Char} {st : Statement}
    (h : statement s = some (st, tail)) : st.IsDistinct := by
  unfold statement at h
  split at h
  · obtain ⟨_, -, h⟩ := Option.bind_eq_some_iff.mp h
    obtain ⟨_, -, h⟩ := Option.bind_eq_some_iff.mp h
    dsimp only at h
    split at h
    · obtain ⟨_, -, h⟩ := Option.bind_eq_some_iff.mp h
      obtain ⟨rfl, -⟩ := Prod.mk.inj (Option.some.inj h)
      trivial
    · contradiction
  · obtain ⟨_, -, h⟩ := Option.bind_eq_some_iff.mp h
    obtain ⟨_, -, h⟩ := Option.bind_eq_some_iff.mp h
    dsimp only at h
    split at h
    · obtain ⟨_, -, h⟩ := Option.bind_eq_some_iff.mp h
      obtain ⟨rfl, -⟩ := Prod.mk.inj (Option.some.inj h)
      trivial
    · contradiction
  · obtain ⟨⟨⟨path, k, v⟩, r⟩, hpair, h⟩ := Option.bind_eq_some_iff.mp h
    obtain ⟨_, -, h⟩ := Option.bind_eq_some_iff.mp h
    obtain ⟨rfl, -⟩ := Prod.mk.inj (Option.some.inj h)
    exact pair_isDistinct (fun _ _ _ => value_isDistinct) hpair

theorem statements_isDistinct {fuel : Nat} {s : List Char} {sts : List Statement}
    (h : statements fuel s = some sts) : ∀ st ∈ sts, st.IsDistinct := by
  induction fuel generalizing s sts with
  | zero => contradiction
  | succ fuel ih =>
    unfold statements at h
    split at h
    · obtain rfl := Option.some.inj h
      simp
    · obtain ⟨_, -, h⟩ := Option.bind_eq_some_iff.mp h
      exact ih h
    · split at h
      · exact ih h
      · obtain ⟨⟨st, r⟩, hst, h⟩ := Option.bind_eq_some_iff.mp h
        obtain ⟨rest, hrest, h⟩ := Option.bind_eq_some_iff.mp h
        obtain rfl := Option.some.inj h
        exact List.forall_mem_cons.mpr ⟨statement_isDistinct hst, ih hrest⟩

namespace Document

variable {d d' : Document}

theorem step_isDistinct {st : Statement} (hst : st.IsDistinct) (h : d.root.IsDistinct)
    (hs : d.step st = some d') : d'.root.IsDistinct := by
  cases st with
  | header path k extent =>
    obtain ⟨root, hroot, hd⟩ := Option.bind_eq_some_iff.mp hs
    obtain rfl := Option.some.inj hd
    exact Value.update_isDistinct (fun _ _ => Value.openTable_isDistinct) h hroot
  | item path k extent =>
    obtain ⟨root, hroot, hd⟩ := Option.bind_eq_some_iff.mp hs
    obtain rfl := Option.some.inj hd
    exact Value.update_isDistinct (fun _ _ => Value.openItem_isDistinct) h hroot
  | pair path k v =>
    obtain ⟨root, hroot, hd⟩ := Option.bind_eq_some_iff.mp hs
    obtain rfl := Option.some.inj hd
    exact Value.update_isDistinct
      (fun _ _ ht => Value.insert_isDistinct hst (Value.reach_isDistinct ht v)) h hroot

theorem parse_isDistinct {text : List Char} (h : parse text = some d) : d.root.IsDistinct := by
  obtain ⟨sts, hsts, hd⟩ := Option.bind_eq_some_iff.mp h
  exact foldlM_keeps (P := fun d => d.root.IsDistinct)
    (fun st hst _ _ hb hs => step_isDistinct (statements_isDistinct hsts st hst) hb hs) .empty hd

end Document

end MatrixGateway.Toml
