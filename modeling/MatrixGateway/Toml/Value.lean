import MatrixGateway.Toml.Real

/-!
# Values of a document

A value knows where it stands in the text: how many characters of the text
were left before and behind it. A table that was never written out, only
implied by longer keys, has no place of its own.
-/

set_option autoImplicit false

namespace MatrixGateway.Toml

/-- Characters left at the start and at the end of a piece of text. -/
structure Extent where
  start : Nat
  stop : Nat
  deriving DecidableEq

structure Key where
  extent : Extent
  name : String
  deriving DecidableEq

inductive Making where
  | header
  | implied
  | dotted
  | braces
  deriving DecidableEq

inductive Value where
  | text (extent : Extent) (s : String)
  | integer (extent : Extent) (n : Int)
  | real (extent : Extent) (x : Real)
  | boolean (extent : Extent) (b : Bool)
  | moment (extent : Extent)
  | array (extent : Extent) (items : List Value)
  /-- Tables under headers in double brackets; each is a table. -/
  | tables (items : List Value)
  | table (making : Making) (extent : Option Extent) (fields : List (Key × Value))

namespace Value

def extent? : Value → Option Extent
  | text e _ | integer e _ | real e _ | boolean e _ | moment e | array e _ => some e
  | tables items =>
    match items.head?, items.getLast? with
    | some (table _ (some a) _), some (table _ (some b) _) => some ⟨a.start, b.stop⟩
    | _, _ => none
  | table _ e _ => e

end Value

end MatrixGateway.Toml
