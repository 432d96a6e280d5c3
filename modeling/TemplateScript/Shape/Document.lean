import TemplateScript.Json.Fields
import TemplateScript.LoadError
import TemplateScript.Shape.Basic

/-!
Shapes and signatures as documents.
-/
namespace TemplateScript

open Json

mutual

def Shape.toJson : Shape → Json
  | .bool => .object [("kind", .string "bool")]
  | .int => .object [("kind", .string "int")]
  | .uint => .object [("kind", .string "uint")]
  | .float => .object [("kind", .string "float")]
  | .string => .object [("kind", .string "string")]
  | .pointer target => .object [("kind", .string "pointer"), ("target", target.toJson)]
  | .sequence element => .object [("kind", .string "sequence"), ("element", element.toJson)]
  | .record name fields methods =>
      .object [("kind", .string "record"), ("name", .ofOption .string name),
        ("fields", .array (FieldShape.toJsonAll fields)),
        ("methods", .array (MethodShape.toJsonAll methods))]
  | .function signature => .object (("kind", .string "function") :: signature.members)
  | .map key value =>
      .object [("kind", .string "map"), ("key", key.toJson), ("value", value.toJson)]
  | .any => .object [("kind", .string "any")]

def Shape.toJsonAll : List Shape → List Json
  | [] => []
  | shape :: rest => shape.toJson :: Shape.toJsonAll rest

def FieldShape.toJsonAll : List FieldShape → List Json
  | [] => []
  | ⟨name, shape, rename⟩ :: rest =>
      .object [("name", .string name), ("shape", shape.toJson),
          ("rename", .ofOption .string rename)]
        :: FieldShape.toJsonAll rest

def MethodShape.toJsonAll : List MethodShape → List Json
  | [] => []
  | ⟨name, signature⟩ :: rest =>
      .object [("name", .string name), ("signature", .object signature.members)]
        :: MethodShape.toJsonAll rest

def Signature.members : Signature → List (String × Json)
  | ⟨receiver, params, results⟩ =>
      [("receiver", .bool receiver), ("params", .array (Shape.toJsonAll params)),
        ("results", .array (Shape.toJsonAll results))]

end

def Signature.toJson (signature : Signature) : Json :=
  .object signature.members

inductive Shape.Kind
  | bool | int | uint | float | string | pointer | sequence | record | function | map | any

def Shape.kinds : List (String × Shape.Kind) :=
  [("bool", .bool), ("int", .int), ("uint", .uint), ("float", .float), ("string", .string),
    ("pointer", .pointer), ("sequence", .sequence), ("record", .record), ("function", .function),
    ("map", .map), ("any", .any)]

def Signature.read? (shape? : Json → Option Shape) (json : Json) : Option Signature := do
  match ← json.fields? ["receiver", "params", "results"] with
  | [receiver, params, results] =>
      return ⟨← defaulted? false bool? receiver, ← defaulted? [] (list? shape?) params,
        ← defaulted? [] (list? shape?) results⟩
  | _ => none

def FieldShape.read? (shape? : Json → Option Shape) (json : Json) : Option FieldShape := do
  match ← json.fields? ["name", "shape", "rename"] with
  | [name, shape, rename] =>
      return ⟨← required? text? name, ← required? shape? shape, ← nullable? text? rename⟩
  | _ => none

def MethodShape.read? (shape? : Json → Option Shape) (json : Json) : Option MethodShape := do
  match ← json.fields? ["name", "signature"] with
  | [name, signature] =>
      return ⟨← required? text? name, ← required? (Signature.read? shape?) signature⟩
  | _ => none

/-- Reads a shape that nests at most this deep. Shapes in a shape may have numbered tags. -/
def Shape.read? : Nat → Bool → Json → Option Shape
  | 0, _, _ => none
  | nesting + 1, nested, json => do
      let (kind, content) ← json.tagged? "kind" Shape.kinds nested
      match kind with
      | .bool => (content.fields? []).map fun _ => .bool
      | .int => (content.fields? []).map fun _ => .int
      | .uint => (content.fields? []).map fun _ => .uint
      | .float => (content.fields? []).map fun _ => .float
      | .string => (content.fields? []).map fun _ => .string
      | .any => (content.fields? []).map fun _ => .any
      | .pointer =>
          match ← content.fields? ["target"] with
          | [target] => return .pointer (← required? (Shape.read? nesting true) target)
          | _ => none
      | .sequence =>
          match ← content.fields? ["element"] with
          | [element] => return .sequence (← required? (Shape.read? nesting true) element)
          | _ => none
      | .record =>
          match ← content.fields? ["name", "fields", "methods"] with
          | [name, fields, methods] =>
              return .record (← nullable? text? name)
                (← defaulted? [] (list? (FieldShape.read? (Shape.read? nesting true))) fields)
                (← defaulted? [] (list? (MethodShape.read? (Shape.read? nesting true))) methods)
          | _ => none
      | .function => return .function (← Signature.read? (Shape.read? nesting true) content)
      | .map =>
          match ← content.fields? ["key", "value"] with
          | [key, value] =>
              return .map (← required? (Shape.read? nesting true) key)
                (← required? (Shape.read? nesting true) value)
          | _ => none

/-- Takes in a shape as a whole where it may nest this deep. -/
def Shape.within? (nesting : Nat) (json : Json) : Option Shape :=
  if json.sound nesting then Shape.read? nesting false json else none

def Shape.ofJson? (json : Json) : Option Shape :=
  Shape.within? nestingLimit json

def Shape.load (text : String) : Except LoadError Shape :=
  loadDocument Shape.ofJson? text

/-- Reads a signature where it may nest this deep; its shapes lie two levels below it. -/
def Signature.within? (nesting : Nat) (json : Json) : Option Signature :=
  Signature.read? (Shape.within? (nesting - 2)) json

def Signature.ofJson? (json : Json) : Option Signature :=
  Signature.within? nestingLimit json

def Signature.load (text : String) : Except LoadError Signature :=
  loadDocument Signature.ofJson? text

end TemplateScript
