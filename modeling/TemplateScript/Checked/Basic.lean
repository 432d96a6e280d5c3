import TemplateScript.Number.Double
import TemplateScript.Scope.Basic

/-!
Checked templates: every name is resolved, every expression carries its type, and every block
keeps the frame of its level.
-/
namespace TemplateScript

inductive Constant.Value
  | number (value : Double)
  | bool (value : Bool)
  | string (value : String)
deriving DecidableEq

def Constant.Value.ty : Constant.Value → Ty
  | .number _ => .number
  | .bool _ => .boolean
  | .string _ => .string

inductive Expr
  | constant (value : Constant.Value) (ty : Ty)
  /-- The field is given by its property name. -/
  | field (subject : Expr) (name : String) (ty : Ty)
  /-- A call of a member of the subject; the type is that of the result. -/
  | method (subject : Expr) (name : String) (args : List Expr) (ty : Ty)
  /-- A variable by its generated name. -/
  | slot (name : String) (ty : Ty)
  /-- The dot. -/
  | context (ty : Ty)
  /-- The table of functions. -/
  | globals (ty : Ty)

namespace Expr

def ofConstant (value : Constant.Value) : Expr :=
  .constant value value.ty

def ty : Expr → Ty
  | .constant _ ty | .field _ _ ty | .method _ _ _ ty | .slot _ ty | .context ty | .globals ty => ty

end Expr

/-- A statement of a checked template. Blocks hold their statements and their frame. -/
inductive Statement
  | text (content : String)
  | emit (value : Expr)
  | declare (name : String) (value : Expr)
  | assign (name : String) (value : Expr)
  /-- The body sees the test value under the bound name, and as its context if it rebinds. -/
  | conditional (test : Expr) (rebinds : Bool) (bound : Option String)
      (body : List Statement) (frame : Frame) (otherwise : List Statement) (otherFrame : Frame)
  /-- The body runs once for each element. The other arm runs when there was none. -/
  | loop (subject : Expr) (index : Option String) (value : Option String)
      (body : List Statement) (frame : Frame) (otherwise : List Statement) (otherFrame : Frame)
  /-- Renders another template. -/
  | «include» (name : String) (context : Option Expr)

structure CheckedTemplate where
  name : String
  body : List Statement
  frame : Frame

end TemplateScript
