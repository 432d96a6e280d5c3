/-!
Places in a source text, given by byte offsets.
-/
namespace TemplateScript

/-- A byte offset into a source text. -/
abbrev Offset := UInt64

/-- A line counted from one, and the number of bytes between its start and the place. -/
structure Location where
  line : Nat
  column : Nat
deriving DecidableEq, Repr

namespace Location

def newline : UInt8 := 10

/-- Offsets past the end of the text stand for its end. -/
def before (text : String) (offset : Offset) : List UInt8 :=
  text.toByteArray.data.toList.take offset.toNat

def ofBytes (bytes : List UInt8) : Location where
  line := 1 + bytes.count newline
  column := (bytes.reverse.takeWhile (· ≠ newline)).length

def locate (text : String) (offset : Offset) : Location :=
  ofBytes (before text offset)

end Location

/-- At most this many characters of a node are shown in a message. -/
def excerptLimit : Nat := 20

/-- The text itself when it is short, and its start followed by an ellipsis when it is not. -/
def excerpt (text : String) : String :=
  if (text.toList.drop excerptLimit).isEmpty then text
  else String.ofList (text.toList.take excerptLimit) ++ "..."

end TemplateScript
