import MatrixGateway.Text.Pieces

/-!
# Internet addresses

Four bytes or eight groups of sixteen bits, with their usual text forms:
dotted decimal, and hexadecimal groups of which the longest run of zeros is
left out.
-/

set_option autoImplicit false

namespace MatrixGateway

structure Ipv4 where
  number : UInt32
  deriving DecidableEq

/-- The first group is the most significant one. -/
structure Ipv6 where
  groups : Vector UInt16 8
  deriving DecidableEq

inductive Ip where
  | v4 (a : Ipv4)
  | v6 (a : Ipv6)
  deriving DecidableEq

def digitText (base n : Nat) : String := String.ofList (Nat.toDigits base n)

namespace Ipv4

def octets (a : Ipv4) : List Nat :=
  let n := a.number.toNat
  [n / 16777216, n / 65536 % 256, n / 256 % 256, n % 256]

def ofOctets (a b c d : Nat) : Ipv4 := ⟨(((a * 256 + b) * 256 + c) * 256 + d).toUInt32⟩

def text (a : Ipv4) : String := ".".intercalate (a.octets.map (digitText 10))

def octet? (s : List Char) : Option Nat :=
  if s ≠ [] ∧ s.length ≤ 3 ∧ s.all Char.isDigit ∧ (s.length = 1 ∨ s.head? ≠ some '0') then
    let n := s.foldl (fun n c => n * 10 + (c.toNat - 48)) 0
    if n < 256 then some n else none
  else none

def parse? (s : List Char) : Option Ipv4 :=
  match (Text.pieces (· = '.') s).mapM octet? with
  | some [a, b, c, d] => some (ofOctets a b c d)
  | _ => none

end Ipv4

namespace Ipv6

def hexValue? (c : Char) : Option Nat :=
  if c.isDigit then some (c.toNat - 48)
  else if 'a' ≤ c ∧ c ≤ 'f' then some (c.toNat - 87)
  else if 'A' ≤ c ∧ c ≤ 'F' then some (c.toNat - 55)
  else none

def group? (s : List Char) : Option Nat := do
  if s = [] ∨ 4 < s.length then none
  else return (← s.mapM hexValue?).foldl (fun n d => n * 16 + d) 0

/-- Groups between colons; the last one may be a dotted address instead,
which counts as two. -/
def groups? (s : List Char) : Option (List Nat) := do
  let ps := Text.pieces (· = ':') s
  let front ← ps.dropLast.mapM group?
  let last := ps.getLastD []
  match Ipv4.parse? last with
  | some a => return front ++ [a.number.toNat / 65536, a.number.toNat % 65536]
  | none => return front ++ [← group? last]

def ofGroups? (gs : List Nat) : Option Ipv6 :=
  if h : gs.length = 8 then some ⟨⟨(gs.map Nat.toUInt16).toArray, by simp [h]⟩⟩ else none

/-- Eight groups, or fewer around one `::` that stands for the missing zeros. -/
def parse? (s : List Char) : Option Ipv6 := do
  match Text.cut? [':', ':'] s with
  | none => ofGroups? (← groups? s)
  | some (front, back) =>
    let front ← if front = [] then some [] else
      (Text.pieces (· = ':') front).mapM group?
    let back ← if back = [] then some [] else groups? back
    let missing := 8 - (front.length + back.length)
    if missing = 0 then none
    else ofGroups? (front ++ List.replicate missing 0 ++ back)

def zeros : List Nat → Nat
  | 0 :: gs => zeros gs + 1
  | _ => 0

/-- Start and length of the first longest run of at least two zeros. -/
def gap? (gs : List Nat) : Option (Nat × Nat) :=
  (List.range gs.length).foldl (fun best i =>
    let n := zeros (gs.drop i)
    if 2 ≤ n ∧ (best.map (·.2)).getD 0 < n then some (i, n) else best) none

def joined (gs : List Nat) : String := ":".intercalate (gs.map (digitText 16))

def text (a : Ipv6) : String :=
  let gs := a.groups.toList.map UInt16.toNat
  match gap? gs with
  | none => joined gs
  | some (i, n) => joined (gs.take i) ++ "::" ++ joined (gs.drop (i + n))

/-- The dotted address in the last two groups, if the others say that there is one. -/
def mapped? (a : Ipv6) : Option Ipv4 :=
  match a.groups.toList.map UInt16.toNat with
  | [0, 0, 0, 0, 0, 0xffff, hi, lo] => some ⟨(hi * 65536 + lo).toUInt32⟩
  | _ => none

end Ipv6

namespace Ip

def text : Ip → String
  | .v4 a => a.text
  | .v6 a =>
    match a.mapped? with
    | some b => "::ffff:" ++ b.text
    | none => a.text

def isUnspecified : Ip → Bool
  | .v4 a => a.number = 0
  | .v6 a => a.groups.toList.all (· = 0)

/-- Whether listening on the one is listening on the other too. The unspecified
address of six stands for every address, that of four for every dotted one. -/
def covers : Ip → Ip → Bool
  | .v4 a, .v4 b => a.number = 0 || a = b
  | .v4 _, .v6 _ => false
  | .v6 a, b => (Ip.v6 a).isUnspecified || .v6 a = b

end Ip

structure Socket where
  ip : Ip
  port : UInt16
  deriving DecidableEq

namespace Socket

def collides (a b : Socket) : Bool := a.port = b.port && (a.ip.covers b.ip || b.ip.covers a.ip)

def text (s : Socket) : String :=
  match s.ip with
  | .v4 _ => s.ip.text ++ ":" ++ toString s.port
  | .v6 _ => "[" ++ s.ip.text ++ "]:" ++ toString s.port

def port? (s : List Char) : Option UInt16 :=
  if s ≠ [] ∧ s.all Char.isDigit then
    let n := s.foldl (fun n c => n * 10 + (c.toNat - 48)) 0
    if n < UInt16.size then some n.toUInt16 else none
  else none

def isScope (s : List Char) : Bool :=
  s ≠ [] && s.all Char.isDigit && s.foldl (fun n c => n * 10 + (c.toNat - 48)) 0 < UInt32.size

def parse? (s : List Char) : Option Socket := do
  let (host, port) ← Text.cutLast? ':' s
  let port ← port? port
  match host with
  | '[' :: rest =>
    if rest.getLast? = some ']' then
      let inner := rest.dropLast
      match Text.cut? ['%'] inner with
      | some (a, scope) => if isScope scope then return ⟨.v6 (← Ipv6.parse? a), port⟩ else none
      | none => return ⟨.v6 (← Ipv6.parse? inner), port⟩
    else none
  | _ => return ⟨.v4 (← Ipv4.parse? host), port⟩

end Socket

end MatrixGateway
