import TemplateScript.Proofs.Scope.Arms

/-!
Scopes that can come up.

A scope is built from a root by its operations, in whatever order and with whatever names. Blocks
open their arms by the same operations, so a checker that starts from such a scope meets no others.
Only declarations rename, and what they rename has a depth behind its name.
-/
namespace TemplateScript.Scope

inductive Reached : Scope → Prop
  | root (context : Ty) : Reached (root context)
  | withFunctions {scope : Scope} (functions : List (String × FunctionType)) :
      Reached scope → Reached (scope.withFunctions functions)
  | child {scope : Scope} : Reached scope → Reached scope.child
  | declare {scope : Scope} (name : String) (ty : Ty) :
      Reached scope → Reached (scope.declare name ty)
  | declareLocal {scope : Scope} (name : String) (ty : Ty) :
      Reached scope → Reached (scope.declareLocal name ty).2
  | setContext {scope : Scope} (context : Ty) : Reached scope → Reached (scope.setContext context)

namespace Reached

theorem base (context : Ty) (functions : List (String × FunctionType)) :
    (Scope.base context functions).Reached :=
  (Reached.root context).withFunctions functions

theorem declare_if {scope : Scope} (reached : scope.Reached) (name : Option String) (ty : Ty) :
    (declareIf name ty scope).Reached := by
  cases name with
  | none => exact reached
  | some own => exact reached.declare own ty

theorem conditional {scope : Scope} (reached : scope.Reached) (rebinds : Bool)
    (bound : Option String) (ty : Ty) : (conditionalScope scope rebinds bound ty).Reached := by
  have opened := reached.child.declare_if bound ty
  cases rebinds with
  | false => exact opened
  | true => exact opened.setContext ty

theorem loop {scope : Scope} (reached : scope.Reached) (index value : Option String)
    (element : Ty) : (loopScope scope index value element).Reached :=
  ((reached.child.setContext element).declare_if index .number).declare_if value element

theorem generated {scope : Scope} (reached : scope.Reached) (name : String) :
    ∀ level ∈ scope.levels, level.generatedName name = name ∨
      ∃ depth, level.generatedName name = shadowName name depth := by
  induction reached with
  | root context => exact List.forall_mem_cons.mpr ⟨.inl rfl, by simp [Scope.root]⟩
  | withFunctions _ _ ih | declare _ _ _ ih | setContext _ _ ih =>
      exact List.forall_mem_cons.mpr (List.forall_mem_cons.mp ih)
  | child _ ih => exact List.forall_mem_cons.mpr ⟨.inl rfl, ih⟩
  | @declareLocal scope own ty _ ih =>
      have before := List.forall_mem_cons.mp ih
      refine List.forall_mem_cons.mpr ⟨?_, before.2⟩
      rw [Level.generatedName, renamed_declare_local]
      split
      · exact .inr ⟨scope.depth, by simp_all⟩
      · exact before.1

theorem lookup {scope : Scope} (reached : scope.Reached) {name generated : String} {ty : Ty}
    (found : Scope.lookup name scope.levels = some (generated, ty)) :
    generated = name ∨ ∃ depth, generated = shadowName name depth := by
  obtain ⟨level, member, here⟩ := List.exists_of_findSome?_eq_some found
  obtain ⟨_, _, same⟩ := Option.map_eq_some_iff.mp here
  obtain ⟨rfl, _⟩ := Prod.mk.inj same
  exact reached.generated name level member

end Reached

end TemplateScript.Scope
