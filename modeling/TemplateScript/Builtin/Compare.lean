import TemplateScript.Builtin.Value
import TemplateScript.Number.Decimal

/-!
Comparison of values as the script language does it: texts by their units, and everything else by
the numbers they stand for.
-/
namespace TemplateScript

namespace Units

/-- Blanks that do not count around a number. -/
def isBlank (u : UInt16) : Bool :=
  let code := u.toNat
  (0x09 ≤ code && code ≤ 0x0d) || code = 0x20 || code = 0xa0 || code = 0x1680 ||
    (0x2000 ≤ code && code ≤ 0x200a) || code = 0x2028 || code = 0x2029 || code = 0x202f ||
    code = 0x205f || code = 0x3000 || code = 0xfeff

def trimmed (text : Units) : Units :=
  ((text.dropWhile isBlank).reverse.dropWhile isBlank).reverse

def toAscii? (text : Units) : Option (List Char) :=
  text.mapM fun u => if u < 0x80 then some (Char.ofNat u.toNat) else none

end Units

namespace Value

def baseNumber (base : Nat) (digits : List Char) : Double :=
  match Digits.value? base digits with
  | some n => Double.ofNat n
  | none => Double.nan

/-- A decimal number with an optional sign, or the word for infinity. -/
def decimalNumber (text : List Char) : Double :=
  let (negative, literal) := Decimal.readSign text
  if literal = "Infinity".toList then Double.infinity negative
  else
    match Decimal.read? literal with
    | some decimal => decimal.toDouble negative
    | none => Double.nan

/-- The number that a text stands for; an empty text is zero. -/
def textNumber (text : Units) : Double :=
  match Units.toAscii? (Units.trimmed text) with
  | none => Double.nan
  | some [] => Double.zero false
  | some ('0' :: 'x' :: digits) | some ('0' :: 'X' :: digits) => baseNumber 16 digits
  | some ('0' :: 'o' :: digits) | some ('0' :: 'O' :: digits) => baseNumber 8 digits
  | some ('0' :: 'b' :: digits) | some ('0' :: 'B' :: digits) => baseNumber 2 digits
  | some literal => decimalNumber literal

inductive Operand
  | number (value : Double)
  | text (content : Units)
deriving DecidableEq

def Operand.toNumber : Operand → Double
  | .number value => value
  | .text content => textNumber content

def operand : Value → Except Fault Operand
  | .undefined => .ok (.number Double.nan)
  | .null => .ok (.number (Double.zero false))
  | .bool value => .ok (.number (Double.ofNat value.toNat))
  | .number value => .ok (.number value)
  | .object members => do
      match ← objectOperand members with
      | some text => return .text text
      | none => return .number Double.nan
  | other => other.convert.map .text

def toNumber (value : Value) : Except Fault Double :=
  value.operand.map Operand.toNumber

/-- Whether one operand comes before another; `none` where one of them is not a number. -/
def Operand.before? : Operand → Operand → Option Bool
  | .text content, .text other => some (Units.less content other)
  | left, right =>
      let x := left.toNumber
      let y := right.toNumber
      if x.isNaN || y.isNaN then none else some (x.lt y)

def before? (left right : Value) : Except Fault (Option Bool) := do
  let operand ← left.operand
  return operand.before? (← right.operand)

def lt (left right : Value) : Except Fault Bool :=
  (before? left right).map fun answer => answer = some true

def gt (left right : Value) : Except Fault Bool :=
  (before? right left).map fun answer => answer = some true

def le (left right : Value) : Except Fault Bool :=
  (before? right left).map fun answer => answer = some false

def ge (left right : Value) : Except Fault Bool :=
  (before? left right).map fun answer => answer = some false

/-- Equality without conversion. Arrays, objects and functions that come from different places
are never equal. -/
def identical : Value → Value → Bool
  | .undefined, .undefined => true
  | .null, .null => true
  | .bool value, .bool other => value = other
  | .number value, .number other => value.same other
  | .string text, .string other => text = other
  | _, _ => false

end Value

end TemplateScript
