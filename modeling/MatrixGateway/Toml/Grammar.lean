import MatrixGateway.Toml.Scalar
import MatrixGateway.Toml.Table

/-!
# Values and statements

A document is a row of statements, one to a line: a header, a header in
double brackets, or a pair of a key and a value. Arrays may run over many
lines, tables between braces may not, and neither is nested without bound.
-/

set_option autoImplicit false

namespace MatrixGateway.Toml

/-- Arrays and tables inside each other, and keys in one path, are fewer. -/
def nestingLimit : Nat := 80

def keyPath : (fuel : Nat) → Step (List Key)
  | 0, _ => none
  | fuel + 1, s => do
    let s := skipBlanks s
    let (name, r) ← simpleKey s
    let key : Key := ⟨⟨s.length, r.length⟩, String.ofList name⟩
    match skipBlanks r with
    | '.' :: r =>
      let (keys, r) ← keyPath fuel r
      return (key :: keys, r)
    | r => return ([key], r)

def splitPath (keys : List Key) : Option (List Key × Key) :=
  if keys.length < nestingLimit then keys.getLast?.map (keys.dropLast, ·) else none

def skipSpace (inComment : Bool) : List Char → Option (List Char)
  | [] => if inComment then none else some []
  | '\n' :: r => skipSpace false r
  | '\r' :: '\n' :: r => skipSpace false r
  | c :: r =>
    if inComment then if isPrintable c then skipSpace true r else none
    else if isBlank c then skipSpace false r
    else if c = '#' then skipSpace true r
    else some (c :: r)

/-- Elements up to the closing bracket; a comma may stand behind the last one. -/
def elements (element : Step Value) : (fuel : Nat) → Step (List Value)
  | 0, _ => none
  | fuel + 1, s => do
    match ← skipSpace false s with
    | ']' :: r => return ([], r)
    | s =>
      let (v, r) ← element s
      match ← skipSpace false r with
      | ']' :: r => return ([v], r)
      | ',' :: r =>
        let (vs, r) ← elements element fuel r
        return (v :: vs, r)
      | _ => none

def pair (element : Step Value) : Step (List Key × Key × Value) := fun s => do
  let (keys, r) ← keyPath (s.length + 1) s
  let (path, key) ← splitPath keys
  match r with
  | '=' :: r =>
    let (v, r) ← element (skipBlanks r)
    return ((path, key, v), r)
  | _ => none

def pairs (element : Step Value) : (fuel : Nat) → Step (List (List Key × Key × Value))
  | 0, _ => none
  | fuel + 1, s => do
    let (p, r) ← pair element s
    match skipBlanks r with
    | '}' :: r => return ([p], r)
    | ',' :: r =>
      let (ps, r) ← pairs element fuel r
      return (p :: ps, r)
    | _ => none

def braced (element : Step Value) : Step (List (List Key × Key × Value)) := fun s =>
  match skipBlanks s with
  | '}' :: r => some ([], r)
  | r => pairs element (r.length + 1) r

def fieldsOf (ps : List (List Key × Key × Value)) : Option Value.Fields := do
  let empty : Value := .table .braces none []
  match ← ps.foldlM (fun (t : Value) (path, k, v) => t.insert path k v) empty with
  | .table _ _ fields => return fields
  | _ => none

def value (depth : Nat) : Step Value := fun s =>
  let upTo (r : List Char) : Extent := ⟨s.length, r.length⟩
  match s with
  | '[' :: r =>
    match depth with
    | 0 => none
    | depth + 1 =>
      (elements (value depth) (r.length + 1) r).map fun (vs, r) => (.array (upTo r) vs, r)
  | '{' :: r =>
    match depth with
    | 0 => none
    | depth + 1 => do
      let (ps, r) ← braced (value depth) r
      return (.table .braces (some (upTo r)) (← fieldsOf ps), r)
  | s =>
    match string s, word "true" s, word "false" s with
    | some (cs, r), _, _ => some (.text (upTo r) (String.ofList cs), r)
    | none, some r, _ => some (.boolean (upTo r) true, r)
    | none, none, some r => some (.boolean (upTo r) false, r)
    | none, none, none =>
      match moment s with
      | some r => some (.moment (upTo r), r)
      | none =>
        match real s with
        | some (x, r) => some (.real (upTo r) x, r)
        | none => (integer s).map fun (n, r) => (.integer (upTo r) n, r)

/-! ## Statements -/

inductive Statement where
  | header (path : List Key) (key : Key) (extent : Extent)
  | item (path : List Key) (key : Key) (extent : Extent)
  | pair (path : List Key) (key : Key) (value : Value)

def lineEnd (s : List Char) : Option (List Char) :=
  let r := skipBlanks s
  let r := match r with
    | '#' :: r => r.dropWhile isPrintable
    | r => r
  if r = [] then some [] else newline? r

def statement : Step Statement := fun s => do
  match s with
  | '[' :: '[' :: r =>
    let (keys, r) ← keyPath (r.length + 1) r
    let (path, key) ← splitPath keys
    match r with
    | ']' :: ']' :: r => return (.item path key ⟨s.length, r.length⟩, ← lineEnd r)
    | _ => none
  | '[' :: r =>
    let (keys, r) ← keyPath (r.length + 1) r
    let (path, key) ← splitPath keys
    match r with
    | ']' :: r => return (.header path key ⟨s.length, r.length⟩, ← lineEnd r)
    | _ => none
  | s =>
    let ((path, key, v), r) ← pair (value (nestingLimit - 1)) s
    return (.pair path key v, ← lineEnd r)

def statements : (fuel : Nat) → List Char → Option (List Statement)
  | 0, _ => none
  | fuel + 1, s => do
    match skipBlanks s with
    | [] => return []
    | '#' :: r => statements fuel (← lineEnd ('#' :: r))
    | s =>
      match newline? s with
      | some r => statements fuel r
      | none =>
        let (statement, r) ← statement s
        return statement :: (← statements fuel r)

end MatrixGateway.Toml
