import TemplateScript.Builtin.Compare
import TemplateScript.Builtin.Url
import TemplateScript.Number.Fixed

/-!
Formatting by directives.

A directive is a percent sign, flags, a width, a precision and a verb. The format is split into
directives and single units first, and the arguments are then taken in order, so the text of an
argument is never read as a directive.
-/
namespace TemplateScript

namespace Printf

structure Directive where
  flags : Units
  width : Option Nat
  precision : Option Nat
  verb : UInt16
deriving DecidableEq

inductive Piece
  | unit (u : UInt16)
  | directive (d : Directive)
deriving DecidableEq

def isFlag (u : UInt16) : Bool :=
  Units.isOneOf ['-', '+', ' ', '0', '#'] u

def isVerb (u : UInt16) : Bool :=
  Units.isLetter u || u = Units.unit '%'

def digitsValue (digits : Units) : Nat :=
  digits.foldl (fun total u => 10 * total + (u.toNat - '0'.toNat)) 0

def readNumber (text : Units) : Option Nat × Units :=
  match text.takeWhile Units.isDigit with
  | [] => (none, text)
  | digits => (some (digitsValue digits), text.dropWhile Units.isDigit)

def readPrecision (text : Units) : Option Nat × Units :=
  match text with
  | point :: rest =>
      if point = Units.unit '.' then
        match readNumber rest with
        | (some n, rest) => (some n, rest)
        | (none, _) => (none, text)
      else (none, text)
  | [] => (none, text)

def readDirective? (text : Units) : Option (Directive × Units) :=
  let flags := text.takeWhile isFlag
  let (width, rest) := readNumber (text.dropWhile isFlag)
  let (precision, rest) := readPrecision rest
  match rest with
  | verb :: rest => if isVerb verb then some (⟨flags, width, precision, verb⟩, rest) else none
  | [] => none

/-- Splits a format. A percent sign that opens no directive stands for itself. -/
def split : Nat → Units → List Piece
  | 0, _ => []
  | _, [] => []
  | fuel + 1, u :: rest =>
      if u = Units.unit '%' then
        match readDirective? rest with
        | some (directive, rest) => .directive directive :: split fuel rest
        | none => .unit u :: split fuel rest
      else .unit u :: split fuel rest

def pieces (format : Units) : List Piece :=
  split format.length format

def Directive.has (flag : Char) (d : Directive) : Bool :=
  d.flags.contains (Units.unit flag)

/-- A part of what is written. Padding is kept as a count, which may be far too large to write. -/
inductive Segment
  | text (content : Units)
  | fill (count : Nat) (unit : UInt16)
deriving DecidableEq

namespace Segment

def length : Segment → Nat
  | .text content => content.length
  | .fill count _ => count

def toUnits : Segment → Units
  | .text content => content
  | .fill count unit => List.replicate count unit

end Segment

def length (segments : List Segment) : Nat :=
  segments.foldr (fun segment total => segment.length + total) 0

def toUnits (segments : List Segment) : Units :=
  segments.flatMap Segment.toUnits

/-- Padding is made in one piece between the items of an array, which must be shorter than this. -/
def arrayLimit : Nat := Nat.pow 2 32

def longest : Nat := Nat.pow 2 29 - 24

/-- Fills up to the width: on the right with blanks, or on the left with zeros or blanks. Zeros
go behind a sign. -/
def pad (d : Directive) (text : Units) : Except Fault (List Segment) :=
  let width := d.width.getD 0
  let count := width - text.length
  if width ≤ text.length then .ok [.text text]
  else if arrayLimit ≤ count + 1 then .error .arrayLength
  else if longest < width then .error .stringLength
  else if d.has '-' then .ok [.text text, .fill count (Units.unit ' ')]
  else if d.has '0' then
    match text with
    | sign :: rest =>
        if sign = Units.unit '-' ∨ sign = Units.unit '+' then
          .ok [.text [sign], .fill count (Units.unit '0'), .text rest]
        else .ok [.fill count (Units.unit '0'), .text text]
    | [] => .ok [.fill count (Units.unit '0')]
  else .ok [.fill count (Units.unit ' '), .text text]

/-- A sign or a blank in front of a number that is not negative, where a flag asks for it. -/
def withSign (d : Directive) (value : Double) (text : Units) : Units :=
  if (Double.zero false).le value then
    if d.has '+' then Units.unit '+' :: text
    else if d.has ' ' then Units.unit ' ' :: text
    else text
  else text

def mostPlaces : Nat := 100

def fixed (d : Directive) (value : Double) : Except Fault Units :=
  let places := d.precision.getD 6
  if mostPlaces < places then .error .fixedDigits
  else .ok (units (value.fixed places))

def hex (value : Value) : Except Fault Units :=
  match value with
  | .number number => .ok (units number.hexText)
  | other =>
      match Url.hexBytes? other.print with
      | some text => .ok text
      | none => .error .malformedUri

def truncated (d : Directive) (text : Units) : Units :=
  match d.precision with
  | none => text
  | some count => text.take count

/-- One argument under a directive. A verb that is not known shows the argument as it is. -/
def format (d : Directive) (value : Value) : Except Fault (List Segment) :=
  match Char.ofNat d.verb.toNat with
  | 'v' | 's' => pad d (truncated d value.print)
  | 'q' => pad d (Value.jsonString value.print)
  | 'd' => do
      let number ← value.toNumber
      pad d (withSign d number (units number.truncatedText))
  | 't' => pad d (Value.boolText value.scriptTruth)
  | 'f' => do
      let number ← value.toNumber
      pad d (withSign d number (← fixed d number))
  | 'x' => do pad d (← hex value)
  | 'X' => do pad d ((← hex value).map Units.toUpper)
  | _ => .ok [.text (units "%!" ++ [d.verb] ++ units "(" ++ value.print ++ units ")")]

def missing (d : Directive) : Units :=
  units "%!" ++ [d.verb] ++ units "(MISSING)"

/-- Writes the pieces; each directive but that of a percent sign takes the next argument. -/
def write : List Piece → List Value → Except Fault (List Segment)
  | [], _ => .ok []
  | .unit u :: rest, args => do return .text [u] :: (← write rest args)
  | .directive d :: rest, args =>
      if d.verb = Units.unit '%' then do return .text [Units.unit '%'] :: (← write rest args)
      else
        match args with
        | [] => do return .text (missing d) :: (← write rest [])
        | value :: args => do
            let text ← format d value
            return text ++ (← write rest args)

/-- The text of segments that are short enough together. -/
def join (segments : List Segment) : Except Fault Units :=
  if longest < length segments then .error .stringLength else .ok (toUnits segments)

end Printf

def printf (args : List Value) : Except Fault Units := do
  let format ← (args.head?.getD .undefined).convert
  Printf.join (← Printf.write (Printf.pieces format) args.tail)

end TemplateScript
