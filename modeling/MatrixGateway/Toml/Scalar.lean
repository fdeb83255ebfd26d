import MatrixGateway.Toml.Value

/-!
# Strings, numbers and moments

Each reader takes what it can from the front of a text and returns the rest.
Where a longer form could have been meant but is broken, what is left behind
makes the document fail later, so no reader needs to look back.
-/

set_option autoImplicit false

namespace MatrixGateway.Toml

abbrev Step (α : Type) := List Char → Option (α × List Char)

def isBlank (c : Char) : Bool := c = ' ' || c = '\t'

def skipBlanks (s : List Char) : List Char := s.dropWhile isBlank

def isPrintable (c : Char) : Bool := c = '\t' || (32 ≤ c.toNat && c.toNat ≠ 127)

def isHex (c : Char) : Bool := c.isDigit || ('a' ≤ c && c ≤ 'f') || ('A' ≤ c && c ≤ 'F')

def hexValue (c : Char) : Nat :=
  if c.isDigit then c.toNat - 48 else if 'a' ≤ c then c.toNat - 87 else c.toNat - 55

def number (base : Nat) (digits : List Char) : Nat :=
  digits.foldl (fun n c => n * base + hexValue c) 0

def exactly (ok : Char → Bool) : (count : Nat) → Step (List Char)
  | 0, s => some ([], s)
  | _ + 1, [] => none
  | count + 1, c :: s => if ok c then (exactly ok count s).map fun (cs, r) => (c :: cs, r) else none

/-! ## Strings -/

def escaped : Step Char
  | 'b' :: r => some ('\x08', r)
  | 'f' :: r => some ('\x0c', r)
  | 'n' :: r => some ('\n', r)
  | 'r' :: r => some ('\r', r)
  | 't' :: r => some ('\t', r)
  | '"' :: r => some ('"', r)
  | '\\' :: r => some ('\\', r)
  | 'u' :: r => do
    let (ds, r) ← exactly isHex 4 r
    if (number 16 ds).isValidChar then some (Char.ofNat (number 16 ds), r) else none
  | 'U' :: r => do
    let (ds, r) ← exactly isHex 8 r
    if (number 16 ds).isValidChar then some (Char.ofNat (number 16 ds), r) else none
  | _ => none

def basicString : (fuel : Nat) → Step (List Char)
  | 0, _ => none
  | _ + 1, '"' :: r => some ([], r)
  | fuel + 1, '\\' :: r => do
    let (c, r) ← escaped r
    let (cs, r) ← basicString fuel r
    return (c :: cs, r)
  | fuel + 1, c :: r => do
    if !isPrintable c then none
    let (cs, r) ← basicString fuel r
    return (c :: cs, r)
  | _ + 1, [] => none

def literalString : Step (List Char)
  | [] => none
  | '\'' :: r => some ([], r)
  | c :: r => if isPrintable c then (literalString r).map fun (cs, r) => (c :: cs, r) else none

def newline? : List Char → Option (List Char)
  | '\n' :: r => some r
  | '\r' :: '\n' :: r => some r
  | _ => none

def skipNewline (s : List Char) : List Char := (newline? s).getD s

def skipLines : List Char → List Char
  | ' ' :: r => skipLines r
  | '\t' :: r => skipLines r
  | '\n' :: r => skipLines r
  | '\r' :: '\n' :: r => skipLines r
  | s => s

/-- The quotes in front: fewer than three are text, three close the string,
and up to two more before those are text. -/
def closing? (quote : Char) (s : List Char) : Option (List Char × List Char) :=
  let run := (s.takeWhile (· = quote)).length
  if run < 3 then none
  else some (List.replicate (min run 5 - 3) quote, s.drop (min run 5))

/-- Behind three opening quotes: up to three closing ones. Single quotes take
backslashes as they are. -/
def longString (quote : Char) : (fuel : Nat) → Step (List Char)
  | 0, _ => none
  | _ + 1, [] => none
  | fuel + 1, c :: r =>
    match (if c = quote then closing? quote (c :: r) else none) with
    | some done => some done
    | none =>
      if c = '\\' ∧ quote = '"' then
        match newline? (skipBlanks r) with
        | some r => longString quote fuel (skipLines r)
        | none => do
          let (c, r) ← escaped r
          let (cs, r) ← longString quote fuel r
          return (c :: cs, r)
      else
        match newline? (c :: r) with
        | some r => do
          let (cs, r) ← longString quote fuel r
          return ('\n' :: cs, r)
        | none => do
          if !isPrintable c then none
          let (cs, r) ← longString quote fuel r
          return (c :: cs, r)

def string : Step (List Char)
  | '"' :: '"' :: '"' :: r => longString '"' (r.length + 1) (skipNewline r)
  | '"' :: r => basicString (r.length + 1) r
  | '\'' :: '\'' :: '\'' :: r => longString '\'' (r.length + 1) (skipNewline r)
  | '\'' :: r => literalString r
  | _ => none

/-! ## Keys -/

def isBare (c : Char) : Bool := c.isAlphanum || c = '_' || c = '-'

def simpleKey : Step (List Char)
  | '"' :: r => basicString (r.length + 1) r
  | '\'' :: r => literalString r
  | s => if s.takeWhile isBare = [] then none else some (s.takeWhile isBare, s.dropWhile isBare)

/-! ## Numbers -/

def digitsFrom (ok : Char → Bool) : List Char → List Char × List Char
  | '_' :: c :: r =>
    if ok c then ((c :: (digitsFrom ok r).1), (digitsFrom ok r).2) else ([], '_' :: c :: r)
  | c :: r => if ok c then ((c :: (digitsFrom ok r).1), (digitsFrom ok r).2) else ([], c :: r)
  | [] => ([], [])

def digits (ok : Char → Bool) : Step (List Char)
  | c :: r => if ok c then some (digitsFrom ok (c :: r)) else none
  | [] => none

def sign : List Char → Bool × List Char
  | '-' :: r => (true, r)
  | '+' :: r => (false, r)
  | s => (false, s)

def decimal : Step (List Char)
  | '0' :: r => some (['0'], r)
  | s => digits Char.isDigit s

def maxInteger : Nat := 9223372036854775807

def integer (s : List Char) : Option (Int × List Char) :=
  let based (base : Nat) (ok : Char → Bool) (r : List Char) : Option (Int × List Char) := do
    let (ds, r) ← digits ok r
    if number base ds ≤ maxInteger then some (Int.ofNat (number base ds), r) else none
  match s with
  | '0' :: 'x' :: r => based 16 isHex r
  | '0' :: 'o' :: r => based 8 (fun c => '0' ≤ c && c ≤ '7') r
  | '0' :: 'b' :: r => based 2 (fun c => c = '0' || c = '1') r
  | s => do
    let (negative, r) := sign s
    let (ds, r) ← decimal r
    let n := number 10 ds
    if negative then if n ≤ maxInteger + 1 then some (-(n : Int), r) else none
    else if n ≤ maxInteger then some (Int.ofNat n, r) else none

def exponent : Step Int
  | 'e' :: r | 'E' :: r => do
    let (negative, r) := sign r
    let (ds, r) ← digits Char.isDigit r
    return (if negative then -(number 10 ds : Int) else number 10 ds, r)
  | _ => none

def word (w : String) (s : List Char) : Option (List Char) :=
  if w.toList.isPrefixOf s then some (s.drop w.length) else none

def checked (x : Real) (r : List Char) : Option (Real × List Char) :=
  if x = .infinite false then none else some (x, r)

def real (s : List Char) : Option (Real × List Char) :=
  let (negative, r) := sign s
  match word "inf" r, word "nan" r with
  | some r, _ => some (.infinite negative, r)
  | none, some r => some (.notANumber, r)
  | none, none => do
    let (whole, r) ← decimal r
    match r with
    | '.' :: r =>
      let (part, r) ← digits Char.isDigit r
      let (power, r) ← match r with
        | 'e' :: _ | 'E' :: _ => exponent r
        | _ => some (0, r)
      checked (.ofDecimal negative (whole ++ part) (power - part.length)) r
    | r =>
      let (power, r) ← exponent r
      checked (.ofDecimal negative whole power) r

/-! ## Moments -/

def field (count least most : Nat) : Step Nat := fun s => do
  let (ds, r) ← exactly Char.isDigit count s
  if least ≤ number 10 ds ∧ number 10 ds ≤ most then some (number 10 ds, r) else none

def char (c : Char) : Step Unit
  | d :: r => if c = d then some ((), r) else none
  | [] => none

def daysIn (year month : Nat) : Nat :=
  if month = 2 then if year % 4 = 0 ∧ (year % 100 ≠ 0 ∨ year % 400 = 0) then 29 else 28
  else if [4, 6, 9, 11].contains month then 30 else 31

def date : Step Unit := fun s => do
  let (year, r) ← field 4 0 9999 s
  let (_, r) ← char '-' r
  let (month, r) ← field 2 1 12 r
  let (_, r) ← char '-' r
  let (_, r) ← field 2 1 (daysIn year month) r
  return ((), r)

def time : Step Unit := fun s => do
  let (_, r) ← field 2 0 23 s
  let (_, r) ← char ':' r
  let (_, r) ← field 2 0 59 r
  let (_, r) ← char ':' r
  let (_, r) ← field 2 0 60 r
  match r with
  | '.' :: r =>
    if r.takeWhile Char.isDigit = [] then none else return ((), r.dropWhile Char.isDigit)
  | r => return ((), r)

def offset (s : List Char) : Option (List Char) :=
  match s with
  | 'Z' :: r | 'z' :: r => some r
  | '+' :: r | '-' :: r => do
    let (_, r) ← field 2 0 23 r
    let (_, r) ← char ':' r
    let (_, r) ← field 2 0 59 r
    return r
  | s => some s

def moment (s : List Char) : Option (List Char) :=
  match date s with
  | none => (time s).map (·.2)
  | some (_, r) =>
    match r with
    | 'T' :: t | 't' :: t => (time t).bind fun (_, r) => offset r
    | ' ' :: t => match time t with
      | some (_, r) => offset r
      | none => some r
    | r => some r

end MatrixGateway.Toml
