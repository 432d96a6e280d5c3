import TemplateScript.Json.Basic

/-!
Fields of documents.

A structure is written as an object, in any order and with unknown members passed over, or as an
array of its fields in declaration order, where fields at the end may be left off. A tagged value
adds the name of its variant: as a member of the object, or as the first item of the array.

A tagged value is taken in as a whole, so everything in it must be readable and within the nesting
limit, unknown members too. Outside of tagged values nobody looks into an unknown member.
-/
namespace TemplateScript.Json

/-- What is read of a document may not nest arrays and objects deeper than this. -/
def nestingLimit : Nat := 127

/-- Whether a value can be taken in as a whole where it may nest this deep. -/
def sound (nesting : Nat) (json : Json) : Bool :=
  json.depth ≤ nesting && json.readable

def valuesNamed (name : String) (members : List (String × Json)) : List Json :=
  (members.filter (·.1 = name)).map Prod.snd

def single? : List Json → Option (Option Json)
  | [] => some none
  | [value] => some (some value)
  | _ => none

/-- Lines up the items of an array with the fields; there may not be more items than fields. -/
def inOrder? : List String → List Json → Option (List (Option Json))
  | names, [] => some (names.map fun _ => none)
  | [], _ :: _ => none
  | _ :: names, item :: items => (inOrder? names items).map (some item :: ·)

def fields? (names : List String) : Json → Option (List (Option Json))
  | .object members => names.mapM fun name => single? (valuesNamed name members)
  | .array items => inOrder? names items
  | _ => none

/-- The variant that a tag names. Within another tagged value its position serves as well. -/
def variant? {α : Type} (variants : List (String × α)) (nested : Bool) : Json → Option α
  | .string name => variants.lookup name
  | .number lexeme =>
      if nested then (natOfLexeme? lexeme).bind fun index => (variants[index]?).map Prod.snd
      else none
  | _ => none

/-- The variant of a tagged value, and the value without its tag. -/
def tagged? {α : Type} (tag : String) (variants : List (String × α)) (nested : Bool) :
    Json → Option (α × Json)
  | .object members => do
      let variant ← variant? variants nested (← (← single? (valuesNamed tag members)))
      return (variant, .object (members.filter (·.1 ≠ tag)))
  | .array (first :: rest) => do
      let variant ← variant? variants nested first
      return (variant, .array rest)
  | _ => none

variable {α : Type}

def required? (read : Json → Option α) (field : Option Json) : Option α :=
  field.bind read

/-- A missing field takes its default; a present one must be right. -/
def defaulted? (default : α) (read : Json → Option α) : Option Json → Option α
  | none => some default
  | some json => read json

/-- A field that may be missing or `null`. -/
def nullable? (read : Json → Option α) : Option Json → Option (Option α)
  | none => some none
  | some .null => some none
  | some json => (read json).map some

def text? : Json → Option String
  | .string text => some text
  | _ => none

def bool? : Json → Option Bool
  | .bool value => some value
  | _ => none

def word? : Json → Option UInt64
  | .number lexeme =>
      (natOfLexeme? lexeme).bind fun n => if n < Nat.pow 2 64 then some (UInt64.ofNat n) else none
  | _ => none

def list? (read : Json → Option α) : Json → Option (List α)
  | .array items => items.mapM read
  | _ => none

def entries? (read : Json → Option α) : Json → Option (List (String × α))
  | .object members => members.mapM fun (name, value) => (read value).map fun found => (name, found)
  | _ => none

end TemplateScript.Json
