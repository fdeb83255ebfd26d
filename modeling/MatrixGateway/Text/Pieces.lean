/-!
# Pieces of a text

A text cut at every separator has one more piece than it has separators;
none of the pieces holds one.
-/

set_option autoImplicit false

namespace MatrixGateway.Text

def pieces (sep : Char → Bool) : List Char → List (List Char)
  | [] => [[]]
  | c :: cs =>
    if sep c then [] :: pieces sep cs
    else
      match pieces sep cs with
      | [] => [[c]]
      | p :: ps => (c :: p) :: ps

theorem pieces_ne_nil (sep : Char → Bool) (cs : List Char) : pieces sep cs ≠ [] := by
  cases cs with
  | nil => simp [pieces]
  | cons c cs =>
    unfold pieces
    split
    · simp
    · split <;> simp

def cut? (mark : List Char) : List Char → Option (List Char × List Char)
  | [] => if mark = [] then some ([], []) else none
  | c :: cs =>
    if mark.isPrefixOf (c :: cs) then some ([], (c :: cs).drop mark.length)
    else (cut? mark cs).map fun (a, b) => (c :: a, b)

def cutLast? (c : Char) (s : List Char) : Option (List Char × List Char) :=
  let rest := s.reverse
  match rest.dropWhile (· ≠ c) with
  | [] => none
  | _ :: before => some (before.reverse, (rest.takeWhile (· ≠ c)).reverse)

def has (mark s : List Char) : Bool := (cut? mark s).isSome

def lower (s : List Char) : List Char := s.map Char.toLower

end MatrixGateway.Text
