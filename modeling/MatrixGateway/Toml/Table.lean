import MatrixGateway.Toml.Value

/-!
# Growing tables

A table is filled through paths of keys. A path creates the tables that it
misses and passes through those it may: a header through every table that
is not written between braces, a key with dots only through tables that no
header has opened. No key is given twice.
-/

set_option autoImplicit false

namespace MatrixGateway.Toml

def Making.admits (dotted : Bool) : Making → Bool
  | .header => !dotted
  | .implied | .dotted => true
  | .braces => false

namespace Value

abbrev Fields := List (Key × Value)

def find? (fields : Fields) (name : String) : Option Value :=
  (fields.find? (·.1.name = name)).map (·.2)

def remove (fields : Fields) (name : String) : Fields := fields.filter (·.1.name ≠ name)

def replace (fields : Fields) (name : String) (v : Value) : Fields :=
  fields.map fun (k, old) => if k.name = name then (k, v) else (k, old)

/-- Changes what is found at the end of a path; the last of several tables
under one name is the one that is meant. -/
def update (dotted : Bool) (change : Value → Option Value) : List Key → Value → Option Value
  | [], t => change t
  | k :: ks, .table making extent fields =>
    match find? fields k.name with
    | none => do
      let child ← update dotted change ks (.table (if dotted then .dotted else .implied) none [])
      return .table making extent (fields ++ [(k, child)])
    | some (.table m e fs) =>
      if m.admits dotted then do
        let child ← update dotted change ks (.table m e fs)
        return .table making extent (replace fields k.name child)
      else none
    | some (.tables items) => do
      let child ← update dotted change ks (← items.getLast?)
      return .table making extent (replace fields k.name (.tables (items.dropLast ++ [child])))
    | some _ => none
  | _ :: _, _ => none

/-- A new field, in a table made by dots if and only if dots led there. -/
def put (dotted : Bool) (k : Key) (v : Value) : Value → Option Value
  | .table making extent fields =>
    if (making = .dotted ↔ dotted) ∧ (find? fields k.name).isNone then
      some (.table making extent (fields ++ [(k, v)]))
    else none
  | _ => none

def insert (t : Value) (path : List Key) (k : Key) (v : Value) : Option Value :=
  t.update true (put (path ≠ []) k v) path

/-- Opens a table under a header. One that was only implied is taken over and
counts from here on. -/
def openTable (k : Key) (header : Extent) : Value → Option Value
  | .table making extent fields =>
    match find? fields k.name with
    | none => some (.table making extent (fields ++ [(k, .table .header (some header) [])]))
    | some (.table .implied _ fs) =>
      some (.table making extent (remove fields k.name ++ [(k, .table .header (some header) fs)]))
    | some _ => none
  | _ => none

def openItem (k : Key) (header : Extent) : Value → Option Value
  | .table making extent fields =>
    let item := Value.table .header (some header) []
    match find? fields k.name with
    | none => some (.table making extent (fields ++ [(k, .tables [item])]))
    | some (.tables items) =>
      some (.table making extent (replace fields k.name (.tables (items ++ [item]))))
    | some _ => none
  | _ => none

def reach (t v : Value) : Value :=
  match t with
  | .table making (some e) fields =>
    .table making (some ⟨e.start, (v.extent?.map (·.stop)).getD e.stop⟩) fields
  | t => t

end Value

end MatrixGateway.Toml
