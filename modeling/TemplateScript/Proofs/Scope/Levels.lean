import TemplateScript.Proofs.NameMap
import TemplateScript.Proofs.Scope.Variable

/-!
What scope operations do to the levels.

A lookup stops at the innermost level that binds the name. A declaration adds its variable to the
innermost level and leaves every other variable, and every enclosing level, as it was. A level is
regular when it binds nothing with a dollar sign but variables, and has renamed variables after its
own depth only; every level that scope operations produce is.
-/
namespace TemplateScript

namespace Level

def binds (name : String) (level : Level) : Bool :=
  NameMap.contains name level.bindings

def keeps (name : String) (level : Level) : Prop :=
  level.binds name = true ∧ NameMap.get? name level.renamed = none

theorem binds_of_get {name : String} {ty : Ty} {level : Level}
    (found : NameMap.get? name level.bindings = some ty) : level.binds name = true :=
  NameMap.contains_of_get found

theorem type_of_binds {name : String} {level : Level} (bound : level.binds name = true) :
    ∃ ty, NameMap.get? name level.bindings = some ty :=
  NameMap.get_of_contains bound

theorem find_of_get {name : String} {ty : Ty} {level : Level}
    (found : NameMap.get? name level.bindings = some ty) :
    level.find? name = some (level.generatedName name, ty) := by
  simp [find?, found]

theorem find_of_unbound {name : String} {level : Level} (unbound : level.binds name = false) :
    level.find? name = none := by
  simp [find?, NameMap.get_of_not_contains unbound]

@[simp] theorem binds_empty (name : String) (context : Ty) :
    (Level.empty context).binds name = false := rfl

@[simp] theorem binds_bind (key name : String) (ty : Ty) (level : Level) :
    (level.bind name ty).binds key = (decide (key = name) || level.binds key) := by
  simp [binds, bind]

structure Regular (depth : Nat) (level : Level) : Prop where
  written : ∀ name, level.binds name = true →
    isVariable name = true ∨ startsWithDollar name = false
  renamed : ∀ name generated, NameMap.get? name level.renamed = some generated →
    isVariable name = true ∧ generated = Scope.shadowName name depth

theorem Regular.empty (depth : Nat) (context : Ty) : (Level.empty context).Regular depth where
  written := by simp
  renamed := by simp [Level.empty, NameMap.get?]

theorem Regular.bind {depth : Nat} {level : Level} (regular : level.Regular depth) {name : String}
    (written : isVariable name = true) (ty : Ty) : (level.bind name ty).Regular depth where
  written := by
    intro key bound
    simp only [binds_bind, Bool.or_eq_true, decide_eq_true_eq] at bound
    rcases bound with rfl | earlier
    · exact .inl written
    · exact regular.written key earlier
  renamed := regular.renamed

theorem Regular.generated {depth : Nat} {level : Level} (regular : level.Regular depth)
    (name : String) :
    level.generatedName name = name ∧ NameMap.get? name level.renamed = none ∨
      level.generatedName name = Scope.shadowName name depth ∧ isVariable name = true := by
  unfold generatedName
  cases entry : NameMap.get? name level.renamed with
  | none => simp
  | some generated =>
      obtain ⟨written, rfl⟩ := regular.renamed name generated entry
      simp [written]

end Level

namespace Scope

theorem lookup_bound {name : String} {ty : Ty} {level : Level} (outer : List Level)
    (found : NameMap.get? name level.bindings = some ty) :
    lookup name (level :: outer) = some (level.generatedName name, ty) := by
  simp [lookup, Level.find_of_get found]

theorem lookup_unbound {name : String} {level : Level} (outer : List Level)
    (unbound : level.binds name = false) :
    lookup name (level :: outer) = lookup name outer := by
  simp [lookup, Level.find_of_unbound unbound]

theorem lookup_cons_cases {name generated : String} {ty : Ty} {level : Level} {outer : List Level}
    (found : lookup name (level :: outer) = some (generated, ty)) :
    (NameMap.get? name level.bindings = some ty ∧ generated = level.generatedName name) ∨
      (level.binds name = false ∧ lookup name outer = some (generated, ty)) := by
  cases bound : level.binds name with
  | false => exact .inr ⟨rfl, by rwa [lookup_unbound outer bound] at found⟩
  | true =>
      obtain ⟨here, entry⟩ := Level.type_of_binds bound
      rw [lookup_bound outer entry] at found
      simp only [Option.some.injEq, Prod.mk.injEq] at found
      obtain ⟨rfl, rfl⟩ := found
      exact .inl ⟨entry, rfl⟩

@[simp] theorem lookup_child (name : String) (scope : Scope) :
    lookup name scope.child.levels = lookup name scope.levels :=
  lookup_unbound scope.levels (Level.binds_empty name scope.context)

theorem field_named_lookup {name generated : String} {ty : Ty} {scope : Scope}
    (found : scope.fieldNamed name = .ok (generated, ty)) :
    lookup name scope.levels = some (generated, ty) := by
  unfold fieldNamed at found
  split at found
  · next entry => rw [entry, Except.ok.inj found]
  · cases found

@[simp] theorem outer_declare_local (name : String) (ty : Ty) (scope : Scope) :
    (scope.declareLocal name ty).2.outer = scope.outer := rfl

@[simp] theorem bindings_declare_local (name : String) (ty : Ty) (scope : Scope) :
    (scope.declareLocal name ty).2.level.bindings = NameMap.insert name ty scope.level.bindings :=
  rfl

@[simp] theorem binds_declare_local (key name : String) (ty : Ty) (scope : Scope) :
    (scope.declareLocal name ty).2.level.binds key =
      (decide (key = name) || scope.level.binds key) := by
  simp [Level.binds]

theorem renamed_declare_local (key name : String) (ty : Ty) (scope : Scope) :
    NameMap.get? key (scope.declareLocal name ty).2.level.renamed =
      if key = name ∧ scope.hides name = true then some (shadowName name scope.depth)
      else NameMap.get? key scope.level.renamed := by
  cases hidden : scope.hides name <;> simp [declareLocal, hidden]

/-- What the innermost level binds already keeps its generated name. -/
theorem generated_name_kept {key : String} (name : String) (ty : Ty) {scope : Scope}
    (bound : scope.level.binds key = true) :
    (scope.declareLocal name ty).2.level.generatedName key = scope.level.generatedName key := by
  have same : ¬(key = name ∧ scope.hides name = true) := by
    intro given
    rcases given with ⟨rfl, hidden⟩
    simp only [Level.binds] at bound
    simp [hides, bound] at hidden
  simp only [Level.generatedName, renamed_declare_local, if_neg same]

theorem lookup_declare_local_other {key name : String} (apart : key ≠ name) (ty : Ty)
    (scope : Scope) :
    lookup key (scope.declareLocal name ty).2.levels = lookup key scope.levels := by
  have same : (scope.declareLocal name ty).2.level.find? key = scope.level.find? key := by
    have renamed := renamed_declare_local key name ty scope
    rw [if_neg (fun both => apart both.1)] at renamed
    simp [Level.find?, Level.generatedName, renamed, apart]
  simp [lookup, levels, List.findSome?_cons, same]

theorem lookup_declare_other {key name : String} (apart : key ≠ name) (ty : Ty) (scope : Scope) :
    lookup key (scope.declare name ty).levels = lookup key scope.levels := by
  have same : (scope.level.bind name ty).find? key = scope.level.find? key := by
    simp [Level.find?, Level.bind, Level.generatedName, apart]
  simp [lookup, levels, declare, List.findSome?_cons, same]

theorem regular_declare_local {name : String} (written : isVariable name = true) (ty : Ty)
    {scope : Scope} (regular : scope.level.Regular scope.depth) :
    (scope.declareLocal name ty).2.level.Regular scope.depth where
  written := (regular.bind written ty).written
  renamed := by
    intro key generated entry
    rw [renamed_declare_local] at entry
    split at entry
    · next own =>
        obtain ⟨rfl, _⟩ := own
        exact ⟨written, (Option.some.inj entry).symm⟩
    · exact regular.renamed key generated entry

def Regular : List Level → Prop
  | [] => True
  | level :: outer => level.Regular outer.length ∧ Regular outer

/-- A generated name is the variable itself, or renamed after a depth among the levels. -/
theorem lookup_generated {name generated : String} {ty : Ty} {levels : List Level}
    (regular : Regular levels) (found : lookup name levels = some (generated, ty)) :
    generated = name ∨
      ∃ depth, depth < levels.length ∧ isVariable name = true ∧
        generated = shadowName name depth := by
  induction levels with
  | nil => simp [lookup] at found
  | cons level outer ih =>
      rcases lookup_cons_cases found with ⟨_, rfl⟩ | ⟨_, further⟩
      · rcases regular.1.generated name with ⟨own, _⟩ | ⟨own, written⟩
        · exact .inl own
        · exact .inr ⟨outer.length, by simp, written, own⟩
      · rcases ih regular.2 further with own | ⟨depth, bound, written, own⟩
        · exact .inl own
        · exact .inr ⟨depth, by simp only [List.length_cons]; omega, written, own⟩

/-- Two variables in sight do not share a generated name. -/
theorem lookup_injective {left right generated : String} {leftTy rightTy : Ty}
    {levels : List Level} (regular : Regular levels) (leftWritten : isVariable left = true)
    (rightWritten : isVariable right = true)
    (leftFound : lookup left levels = some (generated, leftTy))
    (rightFound : lookup right levels = some (generated, rightTy)) : left = right := by
  rcases lookup_generated regular leftFound with rfl | ⟨depth, _, _, rfl⟩
  · rcases lookup_generated regular rightFound with same | ⟨depth, _, _, rfl⟩
    · exact same
    · simp [shadow_name_not_variable rightWritten] at leftWritten
  · rcases lookup_generated regular rightFound with rfl | ⟨other, _, _, same⟩
    · simp [shadow_name_not_variable leftWritten] at rightWritten
    · exact (shadow_name_injective leftWritten rightWritten same).1

private theorem function_entries_are_keys (functions : List (String × FunctionType)) (key : String)
    (member : key ∈ (functions.map fun entry => (functionKey entry.1, entry.2.toTy)).map Prod.fst) :
    ∃ ident ∈ functions.map Prod.fst, key = functionKey ident := by
  simp only [List.map_map, List.mem_map, Function.comp_apply] at member
  obtain ⟨entry, present, rfl⟩ := member
  exact ⟨entry.1, List.mem_map_of_mem present, rfl⟩

theorem binds_bind_functions {key : String} {functions : List (String × FunctionType)}
    {level : Level} (bound : (level.bindFunctions functions).binds key = true) :
    (∃ ident ∈ functions.map Prod.fst, key = functionKey ident) ∨ level.binds key = true := by
  rcases (NameMap.contains_insert_all _ _ _).mp bound with member | earlier
  · exact .inl (function_entries_are_keys functions key member)
  · exact .inr earlier

theorem get_bind_functions {key : String} (dollar : startsWithDollar key = true)
    (functions : List (String × FunctionType)) (level : Level) :
    NameMap.get? key (level.bindFunctions functions).bindings =
      NameMap.get? key level.bindings := by
  apply NameMap.get_insert_all_absent
  intro member
  obtain ⟨ident, _, same⟩ := function_entries_are_keys functions key member
  exact dollar_ne_function_key dollar ident same

/-- The outermost level with the functions of the user. -/
def base (context : Ty) (functions : List (String × FunctionType)) : Scope :=
  (root context).withFunctions functions

theorem outer_base (context : Ty) (functions : List (String × FunctionType)) :
    (base context functions).outer = [] := rfl

theorem renamed_base (context : Ty) (functions : List (String × FunctionType)) :
    (base context functions).level.renamed = [] := rfl

theorem binds_base {key : String} {context : Ty} {functions : List (String × FunctionType)}
    (bound : (base context functions).level.binds key = true) :
    (∃ ident, (ident ∈ Builtins.names ∨ ident ∈ functions.map Prod.fst) ∧
      key = functionKey ident) ∨ key = "$" := by
  rcases binds_bind_functions bound with ⟨ident, own, same⟩ | builtin
  · exact .inl ⟨ident, .inr own, same⟩
  · rcases binds_bind_functions builtin with ⟨ident, known, same⟩ | dollar
    · exact .inl ⟨ident, .inl known, same⟩
    · simp only [Level.binds_bind, Level.binds_empty, Bool.or_false, decide_eq_true_eq] at dollar
      exact .inr dollar

theorem get_dollar_base (context : Ty) (functions : List (String × FunctionType)) :
    NameMap.get? "$" (base context functions).level.bindings = some context := by
  have dollar : startsWithDollar "$" = true := by decide
  exact (get_bind_functions dollar functions _).trans
    ((get_bind_functions dollar Builtins.table _).trans (by simp [Level.bind]))

theorem regular_base (context : Ty) (functions : List (String × FunctionType)) :
    Regular (base context functions).levels := by
  refine ⟨⟨?_, ?_⟩, trivial⟩
  · intro name bound
    rcases binds_base bound with ⟨ident, _, rfl⟩ | rfl
    · exact .inr (function_key_no_dollar ident)
    · exact .inl (by decide)
  · intro name generated entry
    simp [renamed_base, NameMap.get?] at entry

end Scope

end TemplateScript
