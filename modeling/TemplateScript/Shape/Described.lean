import TemplateScript.Shape.Basic

/-!
Host types that know their shape.

Scalars and the usual containers are covered. A structure joins by listing its serialized fields.
-/
namespace TemplateScript

class Described (α : Type) where
  shape : Shape

/-- The shape of a host type. -/
def shapeOf (α : Type) [described : Described α] : Shape :=
  described.shape

namespace Shape

def plainRecord (fields : List FieldShape) : Shape :=
  .record none fields []

end Shape

def FieldShape.plain (name : String) (shape : Shape) : FieldShape :=
  ⟨name, shape, none⟩

def FieldShape.annotated (name : String) (shape : Shape) (rename : String) : FieldShape :=
  ⟨name, shape, some rename⟩

instance : Described Bool := ⟨.bool⟩

instance : Described Int := ⟨.int⟩
instance : Described Int8 := ⟨.int⟩
instance : Described Int16 := ⟨.int⟩
instance : Described Int32 := ⟨.int⟩
instance : Described Int64 := ⟨.int⟩
instance : Described ISize := ⟨.int⟩

instance : Described Nat := ⟨.uint⟩
instance : Described UInt8 := ⟨.uint⟩
instance : Described UInt16 := ⟨.uint⟩
instance : Described UInt32 := ⟨.uint⟩
instance : Described UInt64 := ⟨.uint⟩
instance : Described USize := ⟨.uint⟩

instance : Described Float := ⟨.float⟩
instance : Described Float32 := ⟨.float⟩

instance : Described String := ⟨.string⟩
instance : Described Char := ⟨.string⟩

instance {α : Type} [Described α] : Described (List α) := ⟨.sequence (shapeOf α)⟩
instance {α : Type} [Described α] : Described (Array α) := ⟨.sequence (shapeOf α)⟩
instance {α : Type} {n : Nat} [Described α] : Described (Vector α n) := ⟨.sequence (shapeOf α)⟩

/-- A value that may be missing, or that is held elsewhere. -/
instance {α : Type} [Described α] : Described (Option α) := ⟨.pointer (shapeOf α)⟩
instance {α : Type} [Described α] : Described (Thunk α) := ⟨.pointer (shapeOf α)⟩

end TemplateScript
