import TemplateScript.Number.Style
import TemplateScript.Text.Units

/-!
Values that the builtin functions work on, how they are printed, and how the functions fail.

A template prints a value in its own way: missing values as `<nil>`, the elements of an array in
brackets and the members of an object in braces. The script language has another way, which shows
where a value is converted to text without being asked for. There an object is asked for its text
or its number, by methods that its own members may stand in for. A function among the members is
called and gives nothing back; any other member makes the method unusable.

The members of an object stand in the order in which the script language enumerates them: each name
once, names that are indices of an array first and in increasing order, and then the others as they
were added. Of functions only one kind is modelled, which has no parameters and an empty body. This
is what `functionText`, a length of zero, and a call that gives nothing back say of it; functions
from different places are still different values.
-/
namespace TemplateScript

inductive Value
  | undefined
  | null
  | bool (value : Bool)
  | number (value : Double)
  | string (text : Units)
  | array (items : List Value)
  | object (members : List (Units × Value))
  | function
deriving Inhabited

inductive Fault
  /-- Half of a surrogate pair cannot be encoded. -/
  | malformedUri
  /-- A number was asked for with too many fixed places. -/
  | fixedDigits
  | arrayLength
  | stringLength
  /-- An object neither gives a text nor a number for itself. -/
  | noPrimitive
  | noSuchTemplate (name : Units)
deriving DecidableEq

def Fault.message : Fault → Units
  | .malformedUri => units "URI malformed"
  | .fixedDigits => units "toFixed() digits argument must be between 0 and 100"
  | .arrayLength => units "Invalid array length"
  | .stringLength => units "Invalid string length"
  | .noPrimitive => units "Cannot convert object to primitive value"
  | .noSuchTemplate name => units "tmpljs: no such template \"" ++ name ++ units "\""

namespace Value

def isString : Value → Bool
  | .string _ => true
  | _ => false

def isFunction : Value → Bool
  | .function => true
  | _ => false

def scriptTruth : Value → Bool
  | .undefined | .null => false
  | .bool value => value
  | .number value => !(value.isNaN || value.isZero)
  | .string text => !text.isEmpty
  | .array _ | .object _ | .function => true

/-- Whether a template takes a value for true: empty arrays are false. -/
def truth : Value → Bool
  | .array items => !items.isEmpty
  | other => other.scriptTruth

def boolText (value : Bool) : Units :=
  units (if value then "true" else "false")

def numberText (value : Double) : Units :=
  units (value.text .script)

/-- The text of a function without a name, parameters or a body. -/
def functionText : Units :=
  units "function () \x7b\x7d"

mutual

def print : Value → Units
  | .undefined | .null => units "<nil>"
  | .bool value => boolText value
  | .number value => numberText value
  | .string text => text
  | .array items => units "[" ++ Units.join (units " ") (printItems items) ++ units "]"
  | .object members =>
      units "\x7b" ++ Units.join (units " ") (printMembers members) ++ units "\x7d"
  | .function => functionText

def printItems : List Value → List Units
  | [] => []
  | item :: rest => item.print :: printItems rest

/-- Members that are functions are left out. -/
def printMembers : List (Units × Value) → List Units
  | [] => []
  | (_, value) :: rest =>
      if value.isFunction then printMembers rest else value.print :: printMembers rest

end

inductive Method
  | inherited
  | own
  | unusable
deriving DecidableEq

def method (name : String) (members : List (Units × Value)) : Method :=
  match members.lookup (units name) with
  | none => .inherited
  | some .function => .own
  | some _ => .unusable

def undefinedText : Units :=
  units "undefined"

def objectText : Units :=
  units "[object Object]"

/-- The text of an object: asked for by `toString`, and by `valueOf` where that cannot be used.
The inherited `valueOf` gives the object itself, which is no text. -/
def objectConvert (members : List (Units × Value)) : Except Fault Units :=
  match method "toString" members, method "valueOf" members with
  | .inherited, _ => .ok objectText
  | .own, _ | .unusable, .own => .ok undefinedText
  | .unusable, _ => .error .noPrimitive

/-- What an object takes part in a comparison with: `valueOf` is asked first. `none` stands for a
missing value. -/
def objectOperand (members : List (Units × Value)) : Except Fault (Option Units) :=
  match method "valueOf" members, method "toString" members with
  | .own, _ | _, .own => .ok none
  | _, .inherited => .ok (some objectText)
  | _, .unusable => .error .noPrimitive

mutual

def convert : Value → Except Fault Units
  | .undefined => .ok undefinedText
  | .null => .ok (units "null")
  | .bool value => .ok (boolText value)
  | .number value => .ok (numberText value)
  | .string text => .ok text
  | .array items => (convertItems items).map (Units.join (units ","))
  | .object members => objectConvert members
  | .function => .ok functionText

/-- Missing items of an array leave an empty text. -/
def convertItems : List Value → Except Fault (List Units)
  | [] => .ok []
  | .undefined :: rest | .null :: rest => (convertItems rest).map ([] :: ·)
  | item :: rest => do
      let text ← item.convert
      return text :: (← convertItems rest)

end

/-- Prints operands, the first of them after one that was or was not a string. A space stands
between two operands when neither is a string. -/
def printAfter (afterString : Bool) : List Value → Units
  | [] => []
  | value :: rest =>
      (if afterString || value.isString then [] else units " ") ++ value.print ++
        printAfter value.isString rest

def printAll (operands : List Value) : Units :=
  printAfter true operands

def stringify : List Value → Units
  | [.string text] => text
  | operands => printAll operands

def printLine (operands : List Value) : Units :=
  Units.join (units " ") (operands.map print) ++ units "\n"

end Value

end TemplateScript
