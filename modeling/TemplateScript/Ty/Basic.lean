import TemplateScript.Text.NameMap
import TemplateScript.Text.Quoted

/-!
Types of the values that templates render.

An object type gives each field an internal name, which templates use. A label is the property
name that the data use for a field where it differs. Equality of types is decided.
-/
namespace TemplateScript

inductive Ty
  | boolean
  | number
  | string
  | object (fields : List (String × Ty)) (labels : List (String × String))
  | array (element : Ty)
  /-- A function without a result type returns nothing. -/
  | function (args : List Ty) (ret : Option Ty)
deriving Inhabited

/-- A function type on its own, as function tables hold them. -/
structure FunctionType where
  args : List Ty
  ret : Option Ty

def FunctionType.toTy (function : FunctionType) : Ty :=
  .function function.args function.ret

namespace Ty

mutual

def same : Ty → Ty → Bool
  | .boolean, .boolean => true
  | .number, .number => true
  | .string, .string => true
  | .object fields labels, .object fields' labels' =>
      sameFields fields fields' && decide (labels = labels')
  | .array element, .array element' => same element element'
  | .function args none, .function args' none => sameAll args args'
  | .function args (some ret), .function args' (some ret') => sameAll args args' && same ret ret'
  | _, _ => false

def sameFields : List (String × Ty) → List (String × Ty) → Bool
  | [], [] => true
  | (name, ty) :: rest, (name', ty') :: rest' =>
      decide (name = name') && same ty ty' && sameFields rest rest'
  | _, _ => false

def sameAll : List Ty → List Ty → Bool
  | [], [] => true
  | ty :: rest, ty' :: rest' => same ty ty' && sameAll rest rest'
  | _, _ => false

end

mutual

theorem same_iff : (left right : Ty) → (same left right = true ↔ left = right)
  | .boolean, right => by cases right <;> simp [same]
  | .number, right => by cases right <;> simp [same]
  | .string, right => by cases right <;> simp [same]
  | .object fields labels, right => by
      cases right <;> simp [same, same_fields_iff fields]
  | .array element, right => by
      cases right <;> simp [same, same_iff element]
  | .function args none, right => by
      cases right with
      | function args' ret' => cases ret' <;> simp [same, same_all_iff args]
      | _ => simp [same]
  | .function args (some ret), right => by
      cases right with
      | function args' ret' => cases ret' <;> simp [same, same_all_iff args, same_iff ret]
      | _ => simp [same]

theorem same_fields_iff : (left right : List (String × Ty)) →
    (sameFields left right = true ↔ left = right)
  | [], right => by cases right <;> simp [sameFields]
  | (name, ty) :: rest, right => by
      cases right with
      | nil => simp [sameFields]
      | cons entry rest' =>
          cases entry
          simp [sameFields, same_iff ty, same_fields_iff rest]

theorem same_all_iff : (left right : List Ty) → (sameAll left right = true ↔ left = right)
  | [], right => by cases right <;> simp [sameAll]
  | ty :: rest, right => by
      cases right with
      | nil => simp [sameAll]
      | cons ty' rest' => simp [sameAll, same_iff ty, same_all_iff rest]

end

instance : DecidableEq Ty := fun left right =>
  decidable_of_iff (same left right = true) (same_iff left right)

def label (labels : List (String × String)) (name : String) : String :=
  (NameMap.get? name labels).getD name

mutual

def text : Ty → String
  | .boolean => "boolean"
  | .number => "number"
  | .string => "string"
  | .object fields labels => "\x7b" ++ ", ".intercalate (fieldTexts labels fields) ++ "\x7d"
  | .array element => "Array.<" ++ element.text ++ ">"
  | .function args none => "function (" ++ ", ".intercalate (texts args) ++ ")"
  | .function args (some ret) =>
      "function (" ++ ", ".intercalate (texts args) ++ "): " ++ ret.text

def fieldTexts (labels : List (String × String)) : List (String × Ty) → List String
  | [] => []
  | (name, ty) :: rest => (label labels name ++ ": " ++ ty.text) :: fieldTexts labels rest

def texts : List Ty → List String
  | [] => []
  | ty :: rest => ty.text :: texts rest

end

/-- Values that the script language prints as templates do. -/
def isPrimitive : Ty → Bool
  | .boolean | .number | .string => true
  | _ => false

def isArray : Ty → Bool
  | .array _ => true
  | _ => false

end Ty

deriving instance DecidableEq for FunctionType

end TemplateScript
