/-!
# Tables of code points

A table is a text of words, each a code point in hexadecimal followed by
what holds from there on, up to the next word. A long table is cut into
sheets.
-/

set_option autoImplicit false

namespace MatrixGateway.CodePoints

def words (s : String) : List (List Char) :=
  (s.toList.foldr (fun c ws =>
    if c = ' ' ∨ c = '\n' then [] :: ws
    else match ws with
      | [] => [[c]]
      | w :: ws => (c :: w) :: ws) [[]]).filter (· ≠ [])

def digit? (c : Char) : Option Nat :=
  if c.isDigit then some (c.toNat - 48)
  else if 'a' ≤ c ∧ c ≤ 'f' then some (c.toNat - 87)
  else none

def number (value : Nat) : List Char → Nat × List Char
  | [] => (value, [])
  | c :: cs =>
    match digit? c with
    | some d => number (value * 16 + d) cs
    | none => (value, c :: cs)

structure Run (α : Type) where
  start : Nat
  value : α

def runs {α : Type} (read : List Char → α) (words : List (List Char)) : Array (Run α) :=
  (words.map fun w => let (n, rest) := number 0 w; ⟨n, read rest⟩).toArray

def find? {α : Type} (table : Array (Run α)) (n : Nat) : Option (Run α) :=
  table.foldl (fun best r => if r.start ≤ n then some r else best) none

end MatrixGateway.CodePoints
