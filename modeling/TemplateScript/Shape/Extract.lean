import TemplateScript.Shape.Basic
import TemplateScript.Ty.Basic

/-!
Types of shapes.

Extraction stops at the first part without a static type and says where it stands: at a field or
method `path.name`, at the elements of a sequence `path[]`, at a parameter `path#i` counted from
zero, or at a result `path#ret`.
-/
namespace TemplateScript

/-- Shapes that have no static type. -/
inductive Untyped
  | map
  | any
deriving DecidableEq

inductive ExtractError
  | unsupportedShape (path : String) (reason : Untyped)
  | multipleReturns (path : String) (count : Nat)
deriving DecidableEq

def Untyped.message : Untyped → String
  | .map => "maps have no static field set"
  | .any => "dynamically typed values cannot be checked"

def ExtractError.message : ExtractError → String
  | .unsupportedShape path reason => "unsupported shape at " ++ path ++ ": " ++ reason.message
  | .multipleReturns path count =>
      path ++ " returns " ++ toString count ++ " values; at most one is supported"

inductive Annotation
  /-- The field is never serialized. -/
  | omitted
  | named (label : String)
deriving DecidableEq

def beforeComma (text : String) : String :=
  String.ofList (text.toList.takeWhile (· ≠ ','))

/-- An annotation without a label keeps the name of the field. -/
def annotation (name : String) : Option String → Annotation
  | none => .named name
  | some rename =>
      if beforeComma rename = "-" then .omitted
      else if beforeComma rename = "" then .named name
      else .named (beforeComma rename)

/-- Fields and labels of an object type under construction. -/
structure Members where
  fields : NameMap Ty
  labels : NameMap String

namespace Members

/-- A label is only kept where it differs from the name. -/
def addField (name label : String) (ty : Ty) (members : Members) : Members where
  fields := NameMap.insert name ty members.fields
  labels := if label = name then members.labels else NameMap.insert name label members.labels

def addMethod (name : String) (function : FunctionType) (members : Members) : Members where
  fields := NameMap.insert name function.toTy members.fields
  labels := members.labels

end Members

mutual

def Shape.extractAt (path : String) : Shape → Except ExtractError Ty
  | .bool => .ok .boolean
  | .int | .uint | .float => .ok .number
  | .string => .ok .string
  | .pointer target => target.extractAt path
  | .sequence element => (element.extractAt (path ++ "[]")).map .array
  | .record _ fields methods => do
      let members ← FieldShape.extractAll path ⟨[], []⟩ fields
      let members ← MethodShape.extractAll path members methods
      return .object members.fields members.labels
  | .function signature => (signature.extractAt path).map FunctionType.toTy
  | .map _ _ => .error (.unsupportedShape path .map)
  | .any => .error (.unsupportedShape path .any)

def FieldShape.extractAll (path : String) (members : Members) :
    List FieldShape → Except ExtractError Members
  | [] => .ok members
  | ⟨name, shape, rename⟩ :: rest =>
      match annotation name rename with
      | .omitted => FieldShape.extractAll path members rest
      | .named label => do
          let ty ← shape.extractAt (path ++ "." ++ name)
          FieldShape.extractAll path (members.addField name label ty) rest

def MethodShape.extractAll (path : String) (members : Members) :
    List MethodShape → Except ExtractError Members
  | [] => .ok members
  | ⟨name, signature⟩ :: rest => do
      let function ← signature.extractAt (path ++ "." ++ name)
      MethodShape.extractAll path (members.addMethod name function) rest

/-- Parameters come before results, also in what is reported. -/
def Signature.extractAt (path : String) : Signature → Except ExtractError FunctionType
  | ⟨receiver, params, results⟩ => do
      let args ← match receiver, params with
        | true, [] => .ok []
        | true, _ :: rest => Shape.extractParams path 0 rest
        | false, all => Shape.extractParams path 0 all
      match results with
      | [] => return ⟨args, none⟩
      | [single] => return ⟨args, some (← single.extractAt (path ++ "#ret"))⟩
      | many => .error (.multipleReturns path many.length)

def Shape.extractParams (path : String) (index : Nat) : List Shape → Except ExtractError (List Ty)
  | [] => .ok []
  | param :: rest => do
      let ty ← param.extractAt (path ++ "#" ++ toString index)
      return ty :: (← Shape.extractParams path (index + 1) rest)

end

def Shape.extract (shape : Shape) : Except ExtractError Ty :=
  shape.extractAt "$"

end TemplateScript
