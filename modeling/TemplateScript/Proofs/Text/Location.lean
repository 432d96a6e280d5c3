import Mathlib.Data.List.Induction
import TemplateScript.Text.Location

/-!
Locations tell offsets.

A location counts what stands before an offset: a newline opens the next line, and any other byte
moves the column on. Reading on always leads to a larger location, and the column counted from the
start of the line leads back to the offset.
-/
namespace TemplateScript.Location

/-- Locations are in the order of their lines, and those on one line in the order of columns. -/
instance : LT Location where
  lt left right := left.line < right.line ∨ left.line = right.line ∧ left.column < right.column

instance (left right : Location) : Decidable (left < right) :=
  inferInstanceAs (Decidable (left.line < right.line ∨
    left.line = right.line ∧ left.column < right.column))

def source (text : String) : List UInt8 :=
  text.toByteArray.data.toList

/-- Where a line starts: the first one where the text does, and any other one behind the newline
that ends the line before it. -/
def lineStart? : Nat → List UInt8 → Option Nat
  | 1, _ => some 0
  | line + 2, byte :: rest =>
      (lineStart? (if byte = newline then line + 1 else line + 2) rest).map (· + 1)
  | _, _ => none

/-- What a location says about an offset into a text. -/
structure Marks (bytes : List UInt8) (place : Location) (offset : Nat) : Prop where
  newlines : (bytes.take offset).count newline + 1 = place.line
  unbroken : newline ∉ (bytes.take offset).drop (offset - place.column)
  fromStart : ∃ start, lineStart? place.line bytes = some start ∧ offset = start + place.column

section Order

variable {left middle right : Location}

theorem lt_iff : left < right ↔
    left.line < right.line ∨ left.line = right.line ∧ left.column < right.column := Iff.rfl

theorem lt_trans (first : left < middle) (second : middle < right) : left < right := by
  rw [lt_iff] at first second ⊢
  omega

end Order

section Reading

theorem of_bytes_push (bytes : List UInt8) (byte : UInt8) :
    ofBytes (bytes ++ [byte]) =
      if byte = newline then ⟨(ofBytes bytes).line + 1, 0⟩
      else ⟨(ofBytes bytes).line, (ofBytes bytes).column + 1⟩ := by
  by_cases same : byte = newline
  · simp [ofBytes, same, Nat.add_assoc]
  · simp [ofBytes, same]

theorem of_bytes_lt_push (bytes : List UInt8) (byte : UInt8) :
    ofBytes bytes < ofBytes (bytes ++ [byte]) := by
  rw [of_bytes_push, lt_iff]
  split
  · exact .inl (Nat.lt_succ_self _)
  · exact .inr ⟨rfl, Nat.lt_succ_self _⟩

theorem of_bytes_lt_append (bytes : List UInt8) {more : List UInt8} (filled : more ≠ []) :
    ofBytes bytes < ofBytes (bytes ++ more) := by
  induction more using List.reverseRecOn with
  | nil => exact absurd rfl filled
  | append_singleton more byte ih =>
      rw [← List.append_assoc]
      by_cases empty : more = []
      · simpa [empty] using of_bytes_lt_push bytes byte
      · exact lt_trans (ih empty) (of_bytes_lt_push _ byte)

/-- Behind a newline starts the line that has one more newline before it. -/
theorem line_start_behind (bytes rest : List UInt8) :
    lineStart? (bytes.count newline + 2) (bytes ++ newline :: rest) = some (bytes.length + 1) := by
  induction bytes with
  | nil => simp [lineStart?]
  | cons byte bytes ih =>
      by_cases same : byte = newline
      · simp [lineStart?, same, ih]
      · simp [lineStart?, same, ih]

theorem of_bytes_line (bytes : List UInt8) : (ofBytes bytes).line = bytes.count newline + 1 :=
  Nat.add_comm _ _

/-- The column is counted from the start of the line, whatever follows. -/
theorem of_bytes_from_start (bytes rest : List UInt8) :
    ∃ start, lineStart? (ofBytes bytes).line (bytes ++ rest) = some start ∧
      bytes.length = start + (ofBytes bytes).column := by
  induction bytes using List.reverseRecOn generalizing rest with
  | nil => exact ⟨0, by simp [ofBytes, lineStart?], rfl⟩
  | append_singleton bytes byte ih =>
      rw [of_bytes_push, List.append_assoc, List.singleton_append, List.length_append]
      by_cases same : byte = newline
      · subst same
        refine ⟨bytes.length + 1, ?_, by simp⟩
        simpa [of_bytes_line] using line_start_behind bytes rest
      · obtain ⟨start, found, far⟩ := ih (byte :: rest)
        rw [if_neg same]
        exact ⟨start, found, by simp [far, Nat.add_assoc]⟩

theorem of_bytes_unbroken (bytes : List UInt8) :
    newline ∉ bytes.drop (bytes.length - (ofBytes bytes).column) := by
  induction bytes using List.reverseRecOn with
  | nil => simp
  | append_singleton bytes byte ih =>
      rw [of_bytes_push, List.length_append, List.length_singleton]
      by_cases same : byte = newline
      · simp [same]
      · rw [if_neg same, Nat.add_sub_add_right, List.drop_append_of_le_length (Nat.sub_le _ _)]
        simpa [ih] using Ne.symm same

/-- The location behind the first bytes of a text marks how many they are. -/
theorem of_bytes_marks (bytes rest : List UInt8) :
    Marks (bytes ++ rest) (ofBytes bytes) bytes.length where
  newlines := by rw [List.take_left, of_bytes_line]
  unbroken := by
    rw [List.take_left]
    exact of_bytes_unbroken bytes
  fromStart := of_bytes_from_start bytes rest

end Reading

/-- A location marks one offset at most. -/
theorem Marks.unique {bytes : List UInt8} {place : Location} {offset other : Nat}
    (left : Marks bytes place offset) (right : Marks bytes place other) : offset = other := by
  obtain ⟨start, found, far⟩ := left.fromStart
  obtain ⟨again, same, near⟩ := right.fromStart
  rw [found, Option.some.injEq] at same
  rw [far, near, same]

section Texts

theorem length_source (text : String) : (source text).length = text.utf8ByteSize := by
  simp [source]

theorem length_before_min (text : String) (offset : Offset) :
    (before text offset).length = min offset.toNat text.utf8ByteSize := by
  rw [before, List.length_take, ← source, length_source]

theorem locate_marks (text : String) (offset : Offset) :
    Marks (source text) (locate text offset) (min offset.toNat text.utf8ByteSize) := by
  have marks := of_bytes_marks (before text offset) ((source text).drop offset.toNat)
  rwa [before, source, List.take_append_drop, ← before, ← source, length_before_min] at marks

theorem locate_lt_locate (text : String) {left right : Offset} (less : left < right)
    (inside : right.toNat ≤ text.utf8ByteSize) : locate text left < locate text right := by
  have order : left.toNat < right.toNat := UInt64.lt_iff_toNat_lt.mp less
  have earlier : before text left = (before text right).take left.toNat := by
    rw [before, before, List.take_take, Nat.min_eq_left (Nat.le_of_lt order)]
  have later : (before text right).drop left.toNat ≠ [] := by
    rw [Ne, List.drop_eq_nil_iff, length_before_min]
    omega
  have reads := of_bytes_lt_append (before text left) later
  rwa [earlier, List.take_append_drop, ← earlier] at reads

/-- A location tells the offset that it stands for: by the newlines and the bytes since the last
one, and from the start of its line. Offsets in a text have locations in their own order, no two of
them the same, and offsets past its end have that of the end. -/
theorem locate_identifies_offset (text : String) :
    (∀ offset, Marks (source text) (locate text offset) (min offset.toNat text.utf8ByteSize)) ∧
      (∀ left right : Offset, left < right → right.toNat ≤ text.utf8ByteSize →
        locate text left < locate text right) ∧
      (∀ left right : Offset, left.toNat ≤ text.utf8ByteSize → right.toNat ≤ text.utf8ByteSize →
        locate text left = locate text right → left = right) ∧
      ∀ last past : Offset, last.toNat = text.utf8ByteSize → last ≤ past →
        locate text past = locate text last := by
  refine ⟨locate_marks text, fun left right => locate_lt_locate text, ?_, ?_⟩
  · intro left right leftInside rightInside same
    have leftMarks := locate_marks text left
    have rightMarks := locate_marks text right
    rw [Nat.min_eq_left leftInside] at leftMarks
    rw [Nat.min_eq_left rightInside, ← same] at rightMarks
    exact UInt64.toNat_inj.mp (leftMarks.unique rightMarks)
  · intro last past atEnd beyond
    have far : last.toNat ≤ past.toNat := UInt64.le_iff_toNat_le.mp beyond
    have size := length_source text
    have all : before text past = before text last := by
      rw [before, before, ← source, List.take_of_length_le (by omega),
        List.take_of_length_le (by omega)]
    rw [locate, locate, all]

/-- A newline ends its own line, and what is past the end is at the end. -/
example : locate "ab\nc" 2 = ⟨1, 2⟩ ∧ locate "ab\nc" 3 = ⟨2, 0⟩ ∧ locate "ab\nc" 9 = ⟨2, 1⟩ := by
  decide +kernel

end Texts

end TemplateScript.Location
