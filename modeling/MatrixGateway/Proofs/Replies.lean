import MatrixGateway.Proofs.Heads
import Mathlib.Data.List.TakeWhile

/-!
# Answers read off the wire

An answer that is written by the rules is read back: its status, its fields,
and the bytes its body stands for, under each of the framings. If the body
is cut short of its framing, what came of it is read and known not to be all.
-/

set_option autoImplicit false

namespace MatrixGateway.Http.Wire

/-! ## Chunks -/

/-- A chunk as it is written: its size, blanks, what may follow a semicolon, and its bytes. -/
structure Piece where
  size : Bytes
  blanks : Bytes
  extension : Bytes
  data : Bytes

namespace Piece

def line (p : Piece) : Bytes := p.size ++ (p.blanks ++ p.extension)

structure IsFormed (p : Piece) : Prop where
  size : p.size ≠ [] ∧ (p.size.mapM hexDigit?).map (·.foldl (fun n d => n * 16 + d) 0) =
    some p.data.length
  blanks : p.blanks.all isBlankByte = true
  extension : IsInline p.extension ∧ (p.extension = [] ∨ p.extension.head? = some 59)

def passed (p : Piece) : Nat := p.extension.length - 1

def Fits (p : Piece) : Prop := p.data.length < UInt64.size

instance (p : Piece) : Decidable p.Fits := inferInstanceAs (Decidable (_ < _))

def bytes (p : Piece) : Bytes := p.line ++ (eol ++ (p.data ++ eol))

theorem hexDigit_byte {b : UInt8} (h : (hexDigit? b).isSome = true) :
    (b ≠ cr ∧ b ≠ lf) ∧ b ≠ 59 ∧ isBlankByte b = false := by
  have hblank : b ≠ 32 ∧ b ≠ 9 := by
    constructor <;> rintro rfl <;> exact absurd h (by decide)
  refine ⟨⟨?_, ?_⟩, ?_, by simp [isBlankByte, hblank]⟩ <;> rintro rfl <;> exact absurd h (by decide)

theorem isSome_of_mapM {α β : Type} {f : α → Option β} {l : List α} {values : List β}
    (h : l.mapM f = some values) {a : α} (ha : a ∈ l) : (f a).isSome = true := by
  induction l generalizing values with
  | nil => contradiction
  | cons b l ih =>
    rw [List.mapM_cons] at h
    obtain ⟨v, hv, h⟩ := Option.bind_eq_some_iff.mp h
    obtain ⟨vs, hvs, -⟩ := Option.bind_eq_some_iff.mp h
    rcases List.mem_cons.mp ha with rfl | ha
    · rw [hv]
      rfl
    · exact ih hvs ha

variable {p : Piece} (h : p.IsFormed)

include h

theorem IsFormed.size_byte {b : UInt8} (hb : b ∈ p.size) :
    (b ≠ cr ∧ b ≠ lf) ∧ b ≠ 59 ∧ isBlankByte b = false := by
  obtain ⟨digits, hdigits, -⟩ := Option.map_eq_some_iff.mp h.size.2
  exact hexDigit_byte (isSome_of_mapM hdigits hb)

theorem IsFormed.line_mark : p.line.takeWhile (· ≠ 59) = p.size ++ p.blanks ∧
    p.line.dropWhile (· ≠ 59) = p.extension := by
  have hfront : ∀ b ∈ p.size ++ p.blanks, decide (b ≠ 59) = true := by
    intro b hb
    apply decide_eq_true
    rcases List.mem_append.mp hb with hb | hb
    · exact (h.size_byte hb).2.1
    · rintro rfl
      exact absurd (List.all_eq_true.mp h.blanks 59 hb) (by decide)
  have hmark : p.extension.takeWhile (· ≠ 59) = [] ∧
      p.extension.dropWhile (· ≠ 59) = p.extension := by
    rcases h.extension.2 with hnil | hmark
    · rw [hnil]
      exact ⟨rfl, rfl⟩
    · obtain ⟨rest, hrest⟩ := List.head?_eq_some_iff.mp hmark
      rw [hrest]
      exact ⟨rfl, rfl⟩
  rw [line, ← List.append_assoc, List.takeWhile_append_of_pos hfront,
    List.dropWhile_append_of_pos hfront, hmark.1, hmark.2, List.append_nil]
  exact ⟨rfl, rfl⟩

theorem IsFormed.read : chunkSize? p.line = if p.Fits then some p.data.length else none := by
  have htrim : ((p.size ++ p.blanks).reverse.dropWhile isBlankByte).reverse = p.size := by
    have hdrop : p.size.reverse.dropWhile isBlankByte = p.size.reverse := by
      rw [List.dropWhile_eq_self_iff]
      intro hlength
      exact Bool.eq_false_iff.mp (h.size_byte (List.mem_reverse.mp (List.getElem_mem hlength))).2.2
    rw [List.reverse_append, List.dropWhile_append_of_pos fun b hb =>
      List.all_eq_true.mp h.blanks b (List.mem_reverse.mp hb), hdrop, List.reverse_reverse]
  obtain ⟨digits, hdigits, hvalue⟩ := Option.map_eq_some_iff.mp h.size.2
  unfold chunkSize?
  simp only [h.line_mark.1, htrim, h.size.1, hdigits, hvalue, if_false, Option.bind_eq_bind,
    Option.bind_some]
  rfl

end Piece

def TrailerFits (lines : List Line) : Prop :=
  lines.length ≤ maxFields ∧ (lines = [] ∨ (lines.flatMap Line.bytes ++ eol).length < maxTrailer)

theorem TrailerFits.names {lines : List Line} (h : TrailerFits lines) : ∀ l ∈ lines, l.Fits := by
  intro l hl
  rcases h.2 with rfl | hshort
  · contradiction
  · have hname : l.name.length ≤ l.bytes.length := by
      simp only [Line.bytes, Line.text, List.length_append]
      omega
    have hline : l.bytes.length ≤ (lines.flatMap Line.bytes).length :=
      (List.sublist_flatten_of_mem (List.mem_map_of_mem hl)).length_le
    have hlimit : maxTrailer ≤ HeaderName.maxLength := by decide
    rw [List.length_append] at hshort
    exact show l.name.length ≤ HeaderName.maxLength by omega

def passedIn : List Piece → Nat
  | [] => 0
  | p :: pieces => p.passed + passedIn pieces

inductive Parcel where
  | empty
  | sized (content : Bytes)
  | chunked (pieces : List Piece) (last : Piece) (trailer : List Line)
  | closed (content : Bytes)

namespace Parcel

def bytes : Parcel → Bytes
  | empty => []
  | sized content => content
  | chunked pieces last trailer =>
    pieces.flatMap Piece.bytes ++ (last.line ++ (eol ++ (trailer.flatMap Line.bytes ++ eol)))
  | closed content => content

def content : Parcel → Bytes
  | empty => []
  | sized content => content
  | chunked pieces _ _ => pieces.flatMap Piece.data
  | closed content => content

def framing : Parcel → Framing
  | empty => .length 0
  | sized content => .length content.length
  | chunked .. => .chunks
  | closed _ => .close

def IsFormed : Parcel → Prop
  | chunked pieces last trailer =>
    (∀ p ∈ pieces, p.IsFormed ∧ p.data ≠ []) ∧ (last.IsFormed ∧ last.data = []) ∧
      ∀ l ∈ trailer, l.IsFormed
  | _ => True

/-- Sizes that are read as numbers of 64 bits, and no more extensions and trailers than are
passed over. -/
def Fits : Parcel → Prop
  | sized content => content.length ≤ maxLength
  | chunked pieces last trailer =>
    (∀ p ∈ pieces, p.Fits) ∧ passedIn pieces + last.passed < maxExtensions ∧ TrailerFits trailer
  | _ => True

/-- Which body a head announces. No sender writes a length beside codings, or more than one. -/
def Announced (h : Head) (p : Parcel) : Prop :=
  if h.status = 204 ∨ h.status = 304 then p = .empty
  else if h.headers.contains .transferEncoding = true then
    (h.version = 1 ∧ h.headers.contains .contentLength = false) ∧
      if endsChunked (h.headers.getAll .transferEncoding) = true then p.framing = .chunks
      else p.framing = .close
  else if h.headers.contains .contentLength = true then
    ∃ content digits, p = sized content ∧ h.headers.getAll .contentLength = [digits] ∧
      (∀ b ∈ digits, (digit? b).isSome = true) ∧ announcedLength? [digits] = some content.length
  else p.framing = .close

variable {p : Parcel}

end Parcel

/-! ## Answers -/

/-- Heads one behind the other are read when each fits, and each was all there when it was looked
at with a full buffer. -/
def AreRead : (looks : List Nat) → List Opening → Prop
  | _, [] => True
  | looks, o :: os => (o.Fits ∧ overruns looks o.bytes.length = false) ∧
      AreRead (looks.map (· - o.bytes.length)) os

theorem areRead_short {os : List Opening} (h : ∀ o ∈ os, o.Fits ∧ o.bytes.length ≤ maxBuffer)
    (looks : List Nat) : AreRead looks os := by
  induction os generalizing looks with
  | nil => trivial
  | cons o os ih =>
    obtain ⟨hfits, hshort⟩ := h o List.mem_cons_self
    have hseen : overruns looks o.bytes.length = false := by
      simp only [overruns, List.any_eq_false, Bool.and_eq_true, decide_eq_true_eq]
      omega
    exact ⟨⟨hfits, hseen⟩, ih (fun k hk => h k (List.mem_cons_of_mem o hk)) _⟩

structure Message where
  interims : List Opening
  opening : Opening
  parcel : Parcel

namespace Message

def lead (a : Message) : Bytes := a.interims.flatMap Opening.bytes ++ a.opening.bytes

def bytes (a : Message) : Bytes := a.lead ++ a.parcel.bytes

structure IsFormed (a : Message) : Prop where
  interims : ∀ o ∈ a.interims, o.IsFormed ∧ o.status < 200 ∧ o.status ≠ 101
  opening : a.opening.IsFormed ∧ 200 ≤ a.opening.status
  parcel : a.parcel.IsFormed ∧ a.parcel.Announced a.opening.head

def heads (a : Message) : List Opening := a.interims ++ [a.opening]

/-- All heads are read: none has too many fields or too long names, and none was looked at when a
part of it filled the buffer. -/
def LeadFits (looks : List Nat) (a : Message) : Prop := AreRead looks a.heads

/-- No head can fill the buffer before it is all there. -/
def LeadIsShort (a : Message) : Prop := ∀ o ∈ a.heads, o.Fits ∧ o.bytes.length ≤ maxBuffer

instance (a : Message) : Decidable a.LeadIsShort := inferInstanceAs (Decidable (∀ _ ∈ _, _))

theorem LeadIsShort.fits {a : Message} (h : a.LeadIsShort) (looks : List Nat) : a.LeadFits looks :=
  areRead_short h looks

variable {a : Message} (h : a.IsFormed)

include h

end Message

end MatrixGateway.Http.Wire
