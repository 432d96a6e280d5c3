import TemplateScript.Proofs.Checked.Inversion
import TemplateScript.Proofs.Scope.Levels

/-!
Functions and variables do not meet.

Both live in one map for each level, and only the mark in front of a function keeps them apart. As
long as every variable starts with a dollar sign, no declaration changes what a function name means
or the type of the table of functions, and the table has exactly the functions that lookups find.
-/
namespace TemplateScript

namespace Level

private theorem functions_cons (name : String) (ty : Ty) (context : Ty) (rest : NameMap Ty)
    (renamed : NameMap String) :
    functions ⟨context, (name, ty) :: rest, renamed⟩ =
      (match name.toList with
        | first :: tail => if first = functionMark then [(String.ofList tail, ty)] else []
        | [] => []) ++ functions ⟨context, rest, renamed⟩ := by
  unfold functions
  cases spelled : name.toList with
  | nil => simp [spelled]
  | cons first tail =>
      by_cases mark : first = functionMark
      · simp [spelled, mark]
      · simp [spelled, mark]

theorem key_spelling {name : String} {tail : List Char}
    (spelled : name.toList = functionMark :: tail) : name = functionKey (String.ofList tail) := by
  apply String.toList_injective
  simp [spelled, functionKey]

theorem get_functions (ident : String) (level : Level) :
    NameMap.get? ident level.functions = NameMap.get? (functionKey ident) level.bindings := by
  obtain ⟨context, bindings, renamed⟩ := level
  induction bindings with
  | nil => rfl
  | cons entry rest ih =>
      obtain ⟨name, ty⟩ := entry
      rw [functions_cons, NameMap.get_append]
      simp only at ih ⊢
      rw [ih]
      by_cases same : name = functionKey ident
      · subst same
        simp [function_key_spelling, NameMap.get?]
      · have skipped : NameMap.get? (functionKey ident) ((name, ty) :: rest) =
            NameMap.get? (functionKey ident) rest := by simp [NameMap.get?, same]
        rw [skipped]
        split
        · next first tail spelled =>
            split_ifs with mark
            · subst mark
              have other : String.ofList tail ≠ ident := by
                intro same
                subst same
                exact same (key_spelling spelled)
              simp [NameMap.get?, other]
            · rfl
        · rfl

theorem functions_insert {name : String} (dollar : startsWithDollar name = true) (ty : Ty)
    (context : Ty) (bindings : NameMap Ty) (renamed : NameMap String) :
    functions ⟨context, NameMap.insert name ty bindings, renamed⟩ =
      functions ⟨context, bindings, renamed⟩ := by
  have skipped : ∀ other rest, functions ⟨context, (name, other) :: rest, renamed⟩ =
      functions ⟨context, rest, renamed⟩ := by
    intro other rest
    rw [functions_cons]
    split
    · next first tail spelled =>
        have isDollar : first = '$' := by simpa [startsWithDollar, spelled] using dollar
        simp [isDollar, functionMark]
    · rfl
  induction bindings with
  | nil => exact skipped ty []
  | cons entry rest ih =>
      obtain ⟨key, old⟩ := entry
      simp only [NameMap.insert]
      split_ifs with same before
      · subst same
        rw [skipped, skipped]
      · exact skipped ty _
      · rw [functions_cons, functions_cons, ih]

end Level

namespace Scope

/-- The functions of a level do not depend on its generated names. -/
theorem globals_declare_local {name : String} (dollar : startsWithDollar name = true) (ty : Ty)
    (scope : Scope) : (scope.declareLocal name ty).2.globals = scope.globals := by
  have same : (scope.declareLocal name ty).2.level.functions = scope.level.functions :=
    Level.functions_insert dollar ty scope.context scope.level.bindings _
  simp [globals, levels, same]

theorem globals_declare {name : String} (dollar : startsWithDollar name = true) (ty : Ty)
    (scope : Scope) : (scope.declare name ty).globals = scope.globals := by
  have same : (scope.level.bind name ty).functions = scope.level.functions :=
    Level.functions_insert dollar ty scope.context scope.level.bindings _
  simp [globals, levels, declare, same]

@[simp] theorem globals_child (scope : Scope) : scope.child.globals = scope.globals := by
  simp [globals, levels, child, Level.functions, Level.empty]

theorem get_add_missing (key : String) (fields : NameMap Ty) (entries : List (String × Ty)) :
    NameMap.get? key (addMissing fields entries) =
      (NameMap.get? key fields).or (NameMap.get? key entries) := by
  induction entries generalizing fields with
  | nil => simp [addMissing, NameMap.get?]
  | cons entry rest ih =>
      obtain ⟨name, ty⟩ := entry
      have step : addMissing fields ((name, ty) :: rest) =
          addMissing (if NameMap.contains name fields then fields
            else NameMap.insert name ty fields) rest := rfl
      rw [step, ih]
      by_cases known : NameMap.contains name fields = true
      · rw [if_pos known]
        by_cases same : name = key
        · subst same
          obtain ⟨old, found⟩ := NameMap.get_of_contains known
          simp [found]
        · simp [NameMap.get?, same]
      · rw [if_neg known]
        by_cases same : name = key
        · subst same
          have absent := NameMap.get_of_not_contains (Bool.eq_false_iff.mpr known)
          simp [absent, NameMap.get?]
        · simp [NameMap.get?, same, Ne.symm same]

theorem get_level_functions (ident : String) (levels : List Level) :
    NameMap.get? ident (levels.flatMap Level.functions) =
      (lookup (functionKey ident) levels).map Prod.snd := by
  induction levels with
  | nil => rfl
  | cons level outer ih =>
      rw [List.flatMap_cons, NameMap.get_append, Level.get_functions, ih]
      cases bound : NameMap.get? (functionKey ident) level.bindings with
      | none =>
          have unbound : level.binds (functionKey ident) = false := by
            simp [Level.binds, NameMap.contains, bound]
          simp [lookup_unbound outer unbound]
      | some ty => simp [lookup_bound outer bound]

theorem globals_field {ident generated : String} {ty : Ty} {scope : Scope}
    (found : lookup (functionKey ident) scope.levels = some (generated, ty)) :
    scope.globals.fieldNamed ident = .ok (ident, ty) := by
  have entry : NameMap.get? ident (addMissing [] (scope.levels.flatMap Level.functions)) =
      some ty := by
    simp [get_add_missing, get_level_functions, found, NameMap.get?]
  simp [globals, Ty.fieldNamed, entry, Ty.label, NameMap.get?]

theorem lookup_function_base {ident : String} {found : String × Ty} {context : Ty}
    {functions : List (String × FunctionType)}
    (entry : lookup (functionKey ident) (base context functions).levels = some found) :
    ident ∈ Builtins.names ∨ ident ∈ functions.map Prod.fst := by
  obtain ⟨generated, ty⟩ := found
  rcases lookup_cons_cases entry with ⟨here, _⟩ | ⟨_, further⟩
  · rcases binds_base (Level.binds_of_get here) with ⟨own, known, same⟩ | dollar
    · rwa [function_key_injective same]
    · exact absurd dollar.symm (dollar_ne_function_key (by decide) ident)
  · cases further

end Scope

/-- Nothing about functions changes from one scope to the other. -/
structure Scope.SameFunctions (left right : Scope) : Prop where
  globals : left.globals = right.globals
  lookups : ∀ ident,
    lookup (functionKey ident) left.levels = lookup (functionKey ident) right.levels

namespace Scope.SameFunctions

theorem refl (scope : Scope) : scope.SameFunctions scope := ⟨rfl, fun _ => rfl⟩

theorem trans {first second third : Scope} (left : first.SameFunctions second)
    (right : second.SameFunctions third) : first.SameFunctions third :=
  ⟨left.globals.trans right.globals, fun ident => (left.lookups ident).trans (right.lookups ident)⟩

theorem child (scope : Scope) : scope.child.SameFunctions scope :=
  ⟨globals_child scope, fun _ => lookup_child _ scope⟩

theorem declare_local {name : String} (dollar : startsWithDollar name = true) (ty : Ty)
    (scope : Scope) : (scope.declareLocal name ty).2.SameFunctions scope :=
  ⟨globals_declare_local dollar ty scope,
    fun ident => lookup_declare_local_other (dollar_ne_function_key dollar ident).symm ty scope⟩

theorem declare_if {name : Option String} (dollar : ∀ own ∈ name, startsWithDollar own = true)
    (ty : Ty) (scope : Scope) : (declareIf name ty scope).SameFunctions scope := by
  cases name with
  | none => exact refl scope
  | some own =>
      have ownDollar := dollar own rfl
      exact ⟨globals_declare ownDollar ty scope,
        fun ident => lookup_declare_other (dollar_ne_function_key ownDollar ident).symm ty scope⟩

theorem conditional {bound : Option String} (dollar : ∀ own ∈ bound, startsWithDollar own = true)
    (rebinds : Bool) (ty : Ty) (scope : Scope) :
    (conditionalScope scope rebinds bound ty).SameFunctions scope := by
  have declared := (declare_if dollar ty scope.child).trans (child scope)
  cases rebinds with
  | false => exact declared
  | true => exact ⟨declared.globals, declared.lookups⟩

theorem loop {index value : Option String}
    (indexDollar : ∀ own ∈ index, startsWithDollar own = true)
    (valueDollar : ∀ own ∈ value, startsWithDollar own = true) (element : Ty) (scope : Scope) :
    (loopScope scope index value element).SameFunctions scope := by
  have entered : (scope.child.setContext element).SameFunctions scope :=
    ⟨globals_child scope, fun _ => lookup_child _ scope⟩
  exact (declare_if valueDollar element _).trans ((declare_if indexDollar .number _).trans entered)

end Scope.SameFunctions

end TemplateScript
