/-!
Descriptions of host data.

A shape says what a host value looks like before it reaches the script side. Types are extracted
from shapes; shapes themselves are never checked against.
-/
namespace TemplateScript

mutual

inductive Shape
  | bool
  | int
  | uint
  | float
  | string
  /-- Followed without a trace. -/
  | pointer (target : Shape)
  | sequence (element : Shape)
  | record (name : Option String) (fields : List FieldShape) (methods : List MethodShape)
  | function (signature : Signature)
  | map (key : Shape) (value : Shape)
  /-- A value whose type is only known when it is there. -/
  | any

structure FieldShape where
  name : String
  shape : Shape
  /-- A serialization annotation. Its part before the first comma is the label of the field, and
  the label `-` says that the field is never serialized. -/
  rename : Option String

structure MethodShape where
  name : String
  signature : Signature

structure Signature where
  /-- The first parameter is the value that the method belongs to. -/
  receiver : Bool
  params : List Shape
  results : List Shape

end

end TemplateScript
