import TemplateScript.Proofs.Checked.Typing
import TemplateScript.Proofs.Scope.Hoisting

/-!
What statements do to the scope they stand in.

A level grows by declarations and in no other way. What it binds keeps its generated name, the
enclosing levels and the functions stay as they were, and what covers the level in the end covers it
before. Blocks open and close in between and leave no trace.
-/
namespace TemplateScript

structure Scope.Grows (scope last : Scope) : Prop where
  outer : last.outer = scope.outer
  context : last.context = scope.context
  functions : last.SameFunctions scope
  regular : Scope.Regular scope.levels → Scope.Regular last.levels
  kept : ∀ name, scope.level.binds name = true → last.level.binds name = true ∧
    last.level.generatedName name = scope.level.generatedName name
  named : ∀ has, last.level.Named has → scope.level.Named has
  covers : ∀ has, last.level.Covers last.outer has → scope.level.Covers scope.outer has

namespace Scope.Grows

theorem refl (scope : Scope) : scope.Grows scope where
  outer := rfl
  context := rfl
  functions := .refl scope
  regular := id
  kept := fun _ bound => ⟨bound, rfl⟩
  named := fun _ => id
  covers := fun _ => id

theorem trans {scope next last : Scope} (first : scope.Grows next) (second : next.Grows last) :
    scope.Grows last where
  outer := second.outer.trans first.outer
  context := second.context.trans first.context
  functions := second.functions.trans first.functions
  regular := fun regular => second.regular (first.regular regular)
  kept := by
    intro name bound
    obtain ⟨nextBound, nextKept⟩ := first.kept name bound
    obtain ⟨lastBound, lastKept⟩ := second.kept name nextBound
    exact ⟨lastBound, lastKept.trans nextKept⟩
  named := fun has named => first.named has (second.named has named)
  covers := fun has covers => first.covers has (second.covers has covers)

theorem declare_local {name : String} (written : isVariable name = true) (ty : Ty)
    (scope : Scope) : scope.Grows (scope.declareLocal name ty).2 where
  outer := rfl
  context := rfl
  functions := .declare_local (variable_starts_with_dollar written) ty scope
  regular := fun regular => ⟨regular_declare_local written ty regular.1, regular.2⟩
  kept := fun _ bound => ⟨by simp [bound], generated_name_kept name ty bound⟩
  named := fun _ named => named.before_declare_local
  covers := fun _ covers => covers.before_declare_local

end Scope.Grows

theorem Statements.Typed.grows {scope last : Scope} {statements : List Statement}
    (typed : Statements.Typed isVariable scope statements last) : scope.Grows last := by
  induction typed with
  | nil => exact .refl _
  | declare _ var _ ih => exact (Scope.Grows.declare_local var _ _).trans ih
  | text _ ih | emit _ _ ih | assign _ _ _ _ ih | «include» _ _ ih => exact ih
  | conditional _ _ _ _ _ _ _ ih => exact ih
  | loop _ _ _ _ _ _ _ _ _ ih => exact ih

end TemplateScript
