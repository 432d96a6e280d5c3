import TemplateScript.Json.Fields
import TemplateScript.LoadError
import TemplateScript.Ty.Basic

/-!
Types as documents.
-/
namespace TemplateScript.Ty

open Json

def labelMembers (labels : List (String × String)) : List (String × Json) :=
  labels.map fun (name, label) => (name, .string label)

mutual

def toJson : Ty → Json
  | .boolean => .object [("kind", .string "boolean")]
  | .number => .object [("kind", .string "number")]
  | .string => .object [("kind", .string "string")]
  | .object fields labels =>
      .object [("kind", .string "object"), ("fields", .object (fieldMembers fields)),
        ("labels", .object (labelMembers labels))]
  | .array element => .object [("kind", .string "array"), ("element", element.toJson)]
  | .function args none =>
      .object [("kind", .string "function"), ("args", .array (toJsonAll args)), ("ret", .null)]
  | .function args (some ret) =>
      .object [("kind", .string "function"), ("args", .array (toJsonAll args)), ("ret", ret.toJson)]

def fieldMembers : List (String × Ty) → List (String × Json)
  | [] => []
  | (name, ty) :: rest => (name, ty.toJson) :: fieldMembers rest

def toJsonAll : List Ty → List Json
  | [] => []
  | ty :: rest => ty.toJson :: toJsonAll rest

end

inductive Kind
  | boolean | number | string | object | array | function

def kinds : List (String × Kind) :=
  [("boolean", .boolean), ("number", .number), ("string", .string), ("object", .object),
    ("array", .array), ("function", .function)]

/-- Reads a type that nests at most this deep. Types in a type may have numbered tags. Repeated
names in a map leave the last entry. -/
def read? : Nat → Bool → Json → Option Ty
  | 0, _, _ => none
  | nesting + 1, nested, json => do
      let (kind, content) ← json.tagged? "kind" kinds nested
      match kind with
      | .boolean => (content.fields? []).map fun _ => .boolean
      | .number => (content.fields? []).map fun _ => .number
      | .string => (content.fields? []).map fun _ => .string
      | .object =>
          match ← content.fields? ["fields", "labels"] with
          | [fields, labels] =>
              return .object (NameMap.ofList (← required? (entries? (read? nesting true)) fields))
                (NameMap.ofList (← defaulted? [] (entries? text?) labels))
          | _ => none
      | .array =>
          match ← content.fields? ["element"] with
          | [element] => return .array (← required? (read? nesting true) element)
          | _ => none
      | .function =>
          match ← content.fields? ["args", "ret"] with
          | [args, ret] =>
              return .function (← required? (list? (read? nesting true)) args)
                (← nullable? (read? nesting true) ret)
          | _ => none

def ofJson? (json : Json) : Option Ty :=
  if json.sound nestingLimit then read? nestingLimit false json else none

def load (text : String) : Except LoadError Ty :=
  loadDocument ofJson? text

end TemplateScript.Ty
