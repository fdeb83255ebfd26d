import MatrixGateway.Http.Wire
import Mathlib.Data.List.Basic

/-!
# Heads of answers

A head that is written by the rules is read as it was meant, as long as it
has no more fields and no longer names than a head may have, and was all
there before the buffer was found full. Otherwise, or cut short before its
end, it is not read at all.
-/

set_option autoImplicit false

namespace MatrixGateway.Http.Wire

/-! ## Texts that are cut short -/

def IsInline (l : Bytes) : Prop := ∀ b ∈ l, b ≠ cr ∧ b ≠ lf

theorem IsInline.append {a b : Bytes} (ha : IsInline a) (hb : IsInline b) : IsInline (a ++ b) :=
  fun c hc => (List.mem_append.mp hc).elim (ha c) (hb c)

/-- A header line: a name as it is written, and what stands behind the colon. -/
structure Line where
  name : Bytes
  value : Bytes

namespace Line

def text (l : Line) : Bytes := l.name ++ 58 :: l.value

def bytes (l : Line) : Bytes := l.text ++ eol

/-- Upper case in a name means nothing, and blanks around a value do not belong to it. -/
def field (l : Line) : HeaderName × Bytes :=
  (⟨String.ofList (Text.lower l.name.latin)⟩, trimBytes l.value)

structure IsFormed (l : Line) : Prop where
  name : l.name ≠ [] ∧ l.name.latin.all isTokenChar = true
  value : l.value.all isFieldByte = true

def Fits (l : Line) : Prop := l.name.length ≤ HeaderName.maxLength

instance (l : Line) : Decidable l.Fits := inferInstanceAs (Decidable (_ ≤ _))

variable {l : Line} (h : l.IsFormed)

include h

theorem IsFormed.name_byte {b : UInt8} (hb : b ∈ l.name) : b ≠ cr ∧ b ≠ lf ∧ b ≠ 58 := by
  have hchar := List.all_eq_true.mp h.name.2 _ (List.mem_map_of_mem hb)
  refine ⟨?_, ?_, ?_⟩ <;> rintro rfl <;> exact absurd hchar (by decide)

theorem IsFormed.rawField?_text : rawField? l.text = some (l.name, trimBytes l.value) := by
  have hall : ∀ b ∈ l.name, decide (b ≠ 58) = true := fun b hb =>
    decide_eq_true (h.name_byte hb).2.2
  have htake : l.text.takeWhile (· ≠ 58) = l.name := by
    rw [text, List.takeWhile_append_of_pos hall]
    simp
  have hdrop : l.text.dropWhile (· ≠ 58) = 58 :: l.value := by
    rw [text, List.dropWhile_append_of_pos hall]
    simp
  unfold rawField?
  simp only [htake, hdrop]
  exact if_pos ⟨h.name, h.value⟩

theorem IsFormed.ofBytes?_name :
    HeaderName.ofBytes? l.name = if l.Fits then some l.field.1 else none := by
  have hlatin : l.name.latin ≠ [] := fun hnil => h.name.1 (List.map_eq_nil_iff.mp hnil)
  have hlength : l.name.latin.length = l.name.length := List.length_map _
  unfold HeaderName.ofBytes? HeaderName.ofText?
  by_cases hfits : l.Fits
  · rw [if_pos hfits, if_pos ⟨hlatin, Nat.le_trans (Nat.le_of_eq hlength) hfits, h.name.2⟩]
    rfl
  · rw [if_neg hfits, if_neg fun hall => hfits (Nat.le_trans (Nat.le_of_eq hlength.symm) hall.2.1)]

theorem IsFormed.read : field? l.text = if l.Fits then some l.field else none := by
  unfold field?
  simp only [h.rawField?_text, h.ofBytes?_name, Option.bind_eq_bind, Option.bind_some]
  split <;> rfl

end Line

structure Opening where
  version : Nat
  status : Nat
  reason : Bytes
  lines : List Line

namespace Opening

def digit (n : Nat) : UInt8 := UInt8.ofNat (48 + n)

def statusLine (o : Opening) : Bytes :=
  72 :: 84 :: 84 :: 80 :: 47 :: 49 :: 46 :: digit o.version :: 32 :: digit (o.status / 100) ::
    digit (o.status / 10 % 10) :: digit (o.status % 10) :: 32 :: o.reason

def bytes (o : Opening) : Bytes :=
  o.statusLine ++ (eol ++ (o.lines.flatMap Line.bytes ++ eol))

def head (o : Opening) : Head := ⟨o.version, o.status, ⟨o.lines.map Line.field⟩⟩

structure IsFormed (o : Opening) : Prop where
  version : o.version ≤ 1
  status : 100 ≤ o.status ∧ o.status ≤ 999
  reason : o.reason.all isFieldByte = true
  lines : ∀ l ∈ o.lines, l.IsFormed

def Fits (o : Opening) : Prop := o.lines.length ≤ maxFields ∧ ∀ l ∈ o.lines, l.Fits

instance (o : Opening) : Decidable o.Fits := inferInstanceAs (Decidable (_ ∧ _))

theorem digit?_digit {n : Nat} (h : n < 10) :
    digit? (digit n) = some n ∧ isFieldByte (digit n) = true := by
  have key : ∀ n < 10, digit? (digit n) = some n ∧ isFieldByte (digit n) = true := by decide
  exact key n h

variable {o : Opening} (h : o.IsFormed)

include h

theorem IsFormed.read : statusLine? o.statusLine = some (o.version, o.status) := by
  obtain ⟨hlow, hhigh⟩ := h.status
  have hversion := (digit?_digit (Nat.lt_of_le_of_lt h.version (by decide : 1 < 10))).1
  have hhundreds := (digit?_digit (n := o.status / 100) (by omega)).1
  have htens := (digit?_digit (n := o.status / 10 % 10) (Nat.mod_lt _ (by decide))).1
  have hones := (digit?_digit (n := o.status % 10) (Nat.mod_lt _ (by decide))).1
  have hvalue : o.status / 100 * 100 + o.status / 10 % 10 * 10 + o.status % 10 = o.status := by
    omega
  unfold statusLine statusLine?
  simp only [hversion, hhundreds, htens, hones, hvalue, h.version, hlow, h.reason,
    Option.bind_eq_bind, Option.bind_some, decide_true, Bool.and_self, and_self, if_true]

end Opening

end MatrixGateway.Http.Wire
