import TemplateScript.Number.Scaled
import TemplateScript.Text.Literal

/-!
JSON values and their written form.

A number keeps the text it was written with, because whole numbers and fractions are told apart
where documents are read. Members of an object keep their order and may repeat. A text that holds
half of a surrogate pair has no characters; it may stand where nobody reads it.
-/
namespace TemplateScript

inductive Json
  | null
  | bool (value : Bool)
  | number (lexeme : String)
  | string (text : String)
  | array (items : List Json)
  | object (members : List (String × Json))
  /-- A text with half of a surrogate pair, or an object with such a name. -/
  | unreadable
deriving Inhabited

namespace Json

def ofNat (n : Nat) : Json :=
  .number (String.ofList (Nat.toDigits 10 n))

/-- A value that may be missing is written as `null`. -/
def ofOption {α : Type} (write : α → Json) : Option α → Json
  | none => .null
  | some value => write value

/-- The whole number a lexeme stands for, when it has neither sign, fraction nor power of ten. -/
def natOfLexeme? (lexeme : String) : Option Nat :=
  let digits := lexeme.toList
  if digits.isEmpty || !digits.all Char.isDigit then none else some (Decimal.value digits)

def doubleOfLexeme? (lexeme : String) : Option Double :=
  let (negative, literal) := Decimal.readSign lexeme.toList
  (Decimal.read? literal).map (Decimal.toDouble negative)

/-- Whether the number a lexeme stands for is in the range of numbers. -/
def lexemeInRange (lexeme : String) : Bool :=
  match Decimal.parts? (Decimal.readSign lexeme.toList).2 with
  | some parts => (Scaled.ofParts parts).inRange
  | none => false

mutual

def depth : Json → Nat
  | .array items => depthOfItems items + 1
  | .object members => depthOfMembers members + 1
  | _ => 0

def depthOfItems : List Json → Nat
  | [] => 0
  | item :: rest => max item.depth (depthOfItems rest)

def depthOfMembers : List (String × Json) → Nat
  | [] => 0
  | (_, value) :: rest => max value.depth (depthOfMembers rest)

end

mutual

/-- Whether every text inside has characters and every number is in range. -/
def readable : Json → Bool
  | .number lexeme => lexemeInRange lexeme
  | .array items => itemsReadable items
  | .object members => membersReadable members
  | .unreadable => false
  | .null | .bool _ | .string _ => true

def itemsReadable : List Json → Bool
  | [] => true
  | item :: rest => item.readable && itemsReadable rest

def membersReadable : List (String × Json) → Bool
  | [] => true
  | (_, value) :: rest => value.readable && membersReadable rest

end

mutual

def render : Json → String
  | .null => "null"
  | .bool true => "true"
  | .bool false => "false"
  | .number lexeme => lexeme
  | .string text => Literal.json text
  | .array items => "[" ++ ",".intercalate (renderItems items) ++ "]"
  | .object members => "\x7b" ++ ",".intercalate (renderMembers members) ++ "\x7d"
  | .unreadable => "\"\\ud800\""

def renderItems : List Json → List String
  | [] => []
  | item :: rest => item.render :: renderItems rest

def renderMembers : List (String × Json) → List String
  | [] => []
  | (name, value) :: rest => (Literal.json name ++ ":" ++ value.render) :: renderMembers rest

end

end Json

end TemplateScript
