import TemplateScript.Proofs.Checked.Inversion
import TemplateScript.Proofs.Scope.Levels

/-!
The scopes in which the arms of blocks start.

An arm is one level further in. It starts with what its block binds, under the names that the block
gives, and with nothing renamed. Its dot is that of the block, unless the block rebinds it.
-/
namespace TemplateScript.Scope

structure Arm (scope child : Scope) (params : List String) : Prop where
  outer : child.outer = scope.levels
  renamed : child.level.renamed = []
  binds : ∀ name, child.level.binds name = true ↔ name ∈ params

namespace Arm

theorem child (scope : Scope) : scope.Arm scope.child [] where
  outer := rfl
  renamed := rfl
  binds := by simp [Scope.child]

theorem declare_if {scope child : Scope} {params : List String} (arm : scope.Arm child params)
    (name : Option String) (ty : Ty) :
    scope.Arm (declareIf name ty child) (params ++ name.toList) := by
  cases name with
  | none => simpa [declareIf] using arm
  | some own =>
      refine ⟨arm.outer, arm.renamed, ?_⟩
      intro name
      simp [declareIf, declare, arm.binds name, or_comm]

theorem set_context {scope child : Scope} {params : List String} (arm : scope.Arm child params)
    (context : Ty) : scope.Arm (child.setContext context) params :=
  ⟨arm.outer, arm.renamed, arm.binds⟩

theorem conditional (scope : Scope) (rebinds : Bool) (bound : Option String) (ty : Ty) :
    scope.Arm (conditionalScope scope rebinds bound ty) bound.toList := by
  have declared := (child scope).declare_if bound ty
  cases rebinds with
  | false => exact declared
  | true => exact declared.set_context ty

theorem loop (scope : Scope) (index value : Option String) (element : Ty) :
    scope.Arm (loopScope scope index value element) (index.toList ++ value.toList) :=
  (((child scope).set_context element).declare_if index .number).declare_if value element

end Arm

section Dot

variable (scope : Scope) (ty : Ty)

@[simp] theorem context_child : scope.child.context = scope.context := rfl

@[simp] theorem context_set_context : (scope.setContext ty).context = ty := rfl

@[simp] theorem context_to_frame : scope.toFrame.context = scope.context := rfl

@[simp] theorem context_declare_if (name : Option String) :
    (declareIf name ty scope).context = scope.context := by
  cases name <;> rfl

@[simp] theorem context_conditional_scope (rebinds : Bool) (bound : Option String) :
    (conditionalScope scope rebinds bound ty).context = if rebinds then ty else scope.context := by
  cases rebinds <;> simp [conditionalScope]

@[simp] theorem context_loop_scope (index value : Option String) :
    (loopScope scope index value ty).context = ty := by
  simp [loopScope]

end Dot

end TemplateScript.Scope
