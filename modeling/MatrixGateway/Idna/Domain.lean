import MatrixGateway.Idna.Direction
import MatrixGateway.Idna.Joining
import MatrixGateway.Idna.Mapping
import MatrixGateway.Idna.Marks
import MatrixGateway.Idna.Punycode

/-!
# Domain names in ASCII

A name is mapped character by character, composed, and cut into labels.
Each label, read back from its ASCII form if it has one, must be in normal
form; the name is then written with every label in ASCII.
-/

set_option autoImplicit false

namespace MatrixGateway.Idna

def isForbidden (c : Char) : Bool :=
  c.toNat ≤ 32 || c.toNat = 127 || "#%/:<>?@[\\]^|".toList.contains c

def mark : List Char := "xn--".toList

/-- Characters in the longest label that is written in ASCII, and in the
longest such form that is read. -/
def maxWritten : Nat := 1000
def maxRead : Nat := 2000

def unicode? (label : List Char) : Option (List Char) :=
  if mark.isPrefixOf label then
    let form := label.drop mark.length
    if isAscii form ∧ form.length ≤ maxRead then
      (Punycode.decode? form).filter (!isAscii ·)
    else none
  else some label

/-- The ASCII form of a label; it must read back as that label. -/
def ascii? (label : List Char) : Option (List Char) :=
  if isAscii label then some label
  else
    let form := Punycode.encode label
    if label.length ≤ maxWritten ∧ Punycode.decode? form = some label then some (mark ++ form)
    else none

def isNormal (label : List Char) : Bool :=
  label.all isKept && compose label = label && !label.head?.any isMark && areJoinersPlaced [] label

def toAscii? (name : List Char) : Option (List Char) := do
  let text := compose (← name.mapM map?).flatten
  if text.any isForbidden then none
  else
    let labels ← (Text.pieces (· = '.') text).mapM unicode?
    if labels.all isNormal ∧ areDirected labels then
      return ['.'].intercalate (← labels.mapM ascii?)
    else none

end MatrixGateway.Idna
