import MatrixGateway.Text.Pieces
import MatrixGateway.Toml.Grammar

/-!
# Documents

The statements of a text, put together into one table. Pairs go to the
table whose header came last, at first to the document itself.
-/

set_option autoImplicit false

namespace MatrixGateway.Toml

structure Document where
  root : Value := .table .header none []
  current : List Key := []

namespace Document

def step (d : Document) : Statement → Option Document
  | .header path key extent => do
    return ⟨← d.root.update false (Value.openTable key extent) path, path ++ [key]⟩
  | .item path key extent => do
    return ⟨← d.root.update false (Value.openItem key extent) path, path ++ [key]⟩
  | .pair path key v => do
    let grow (t : Value) : Option Value := ((t.reach v).insert path key v)
    return { d with root := ← d.root.update false grow d.current }

def ofStatements (statements : List Statement) : Option Document :=
  statements.foldlM step {}

/-- Splitting of one text; a mark of its byte order in front is passed over. -/
def parse (text : List Char) : Option Document :=
  let s := match text with
    | c :: r => if c.toNat = 0xFEFF then r else text
    | [] => []
  (statements (s.length + 1) s).bind ofStatements

def fields (d : Document) : Value.Fields :=
  match d.root with
  | .table _ _ fields => fields
  | _ => []

end Document

/-! ## Showing a place -/

def lines : List Char → List (Nat × List Char)
  | s => (Text.pieces (· = '\n') s).foldr (fun line (rest : List (Nat × List Char) × Nat) =>
      ((rest.2 + line.length, line) :: rest.1, rest.2 + line.length + 1)) ([], 0) |>.1

/-- The line that a place is on, with its number; marks under as many bytes as
the place has, up to the end of the line. -/
def excerpt (text : List Char) (extent : Extent) : String :=
  let all := lines text
  let count := (all.takeWhile fun (left, _) => extent.start ≤ left).length
  let (left, line) := (all[count - 1]?).getD (0, [])
  let column := left - extent.start
  let size (s : List Char) : Nat := s.foldl (fun n c => n + c.utf8Size) 0
  let covered := size ((text.drop (text.length - extent.start)).take (extent.start - extent.stop))
  let marks := max 1 (min covered (size line - column))
  let number := toString count
  let gutter := String.ofList (List.replicate (number.length + 1) ' ') ++ "|"
  "TOML parse error at line " ++ number ++ ", column " ++ toString (column + 1) ++ "\n" ++
    gutter ++ "\n" ++ number ++ " | " ++ String.ofList line ++ "\n" ++
    gutter ++ String.ofList (List.replicate (column + 1) ' ' ++ List.replicate marks '^') ++ "\n"

end MatrixGateway.Toml
