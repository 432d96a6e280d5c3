import Mathlib.Data.List.Sort
import TemplateScript.Proofs.Scope.Functions

/-!
The functions that a message offers.

A call of an unknown function is answered with the functions there are, the table of functions has
them as its fields, and a lookup finds them: three walks over the same levels, each of which reads
the mark in front of a name in its own way. The table and the lookup take one mark off. The message
takes off all of them, so a function whose own name begins with the mark is offered under a name
that it does not have, and every other function under its own.
-/
namespace TemplateScript

def Ty.fieldNames : Ty → List String
  | .object fields _ => NameMap.keys fields
  | _ => []

/-- A name without any marks in front of it. -/
def unmarked (ident : String) : String :=
  String.ofList (ident.toList.dropWhile (· = functionMark))

theorem unmarked_of_plain {ident : String} (plain : isFunctionKey ident = false) :
    unmarked ident = ident := by
  apply String.toList_injective
  unfold unmarked
  rw [String.toList_ofList]
  cases spelled : ident.toList with
  | nil => rfl
  | cons first rest =>
      have apart : first ≠ functionMark := by simpa [isFunctionKey, spelled] using plain
      simp [apart]

theorem unmarked_plain (ident : String) : isFunctionKey (unmarked ident) = false := by
  have first := List.head?_dropWhile_not (fun c => decide (c = functionMark)) ident.toList
  rw [isFunctionKey, unmarked, String.toList_ofList, decide_eq_false_iff_not]
  intro marked
  simp [marked] at first

namespace Level

theorem mem_function_names (name : String) (level : Level) :
    name ∈ level.namesOf true ↔
      ∃ own, level.binds (functionKey own) = true ∧ unmarked own = name := by
  have shown (own : String) :
      String.ofList ((functionKey own).toList.dropWhile (· = functionMark)) = unmarked own := by
    simp [function_key_spelling, unmarked]
  simp only [namesOf, List.mem_map, List.mem_filter, NameMap.mem_keys_iff, decide_eq_true_eq]
  constructor
  · rintro ⟨key, ⟨bound, marked⟩, rfl⟩
    obtain ⟨tail, spelled⟩ := List.head?_eq_some_iff.mp (of_decide_eq_true marked)
    rw [key_spelling spelled] at bound ⊢
    exact ⟨_, bound, (shown _).symm⟩
  · rintro ⟨own, bound, rfl⟩
    exact ⟨functionKey own, ⟨bound, by simp [isFunctionKey, function_key_spelling]⟩, shown own⟩

/-- Adding functions binds the keys of their names and no other key of a name. -/
theorem bind_functions_binds_iff (functions : List (String × FunctionType)) (level : Level)
    (ident : String) :
    (level.bindFunctions functions).binds (functionKey ident) = true ↔
      ident ∈ functions.map Prod.fst ∨ level.binds (functionKey ident) = true := by
  have added : functionKey ident ∈
      (functions.map fun entry => (functionKey entry.1, entry.2.toTy)).map Prod.fst ↔
        ident ∈ functions.map Prod.fst := by
    rw [List.map_map, List.mem_map, List.mem_map]
    constructor
    · rintro ⟨entry, member, same⟩
      exact ⟨entry, member, function_key_injective same⟩
    · rintro ⟨entry, member, rfl⟩
      exact ⟨entry, member, rfl⟩
  rw [← added]
  exact NameMap.contains_insert_all _ _ _

end Level

namespace Scope

def Callable (scope : Scope) (ident : String) : Prop :=
  ∃ found, scope.functionNamed ident = .ok found

section Walks

variable (scope : Scope)

theorem lookup_is_some_iff (name : String) (levels : List Level) :
    (lookup name levels).isSome = true ↔ ∃ level ∈ levels, level.binds name = true := by
  simp [lookup, List.findSome?_isSome_iff, Level.find?, Level.binds, NameMap.contains]

theorem callable_iff (ident : String) :
    scope.Callable ident ↔ (lookup (functionKey ident) scope.levels).isSome = true := by
  unfold Callable functionNamed
  cases lookup (functionKey ident) scope.levels <;> simp

theorem refused_iff {ident : String} {error : TypeError} :
    scope.functionNamed ident = .error error ↔
      ¬scope.Callable ident ∧ error = .undefinedVariable ident (scope.candidates true) := by
  unfold Callable functionNamed
  cases lookup (functionKey ident) scope.levels <;> simp [eq_comm]

/-- Functions that are added can be called, beside those that could be before. -/
theorem callable_with_functions_iff (functions : List (String × FunctionType)) (ident : String) :
    (scope.withFunctions functions).Callable ident ↔
      ident ∈ functions.map Prod.fst ∨ scope.Callable ident := by
  simp only [callable_iff, lookup_is_some_iff, levels, withFunctions, List.exists_mem_cons_iff,
    Level.bind_functions_binds_iff, or_assoc]

theorem callable_root_iff (context : Ty) (ident : String) :
    (root context).Callable ident ↔ ident ∈ Builtins.names := by
  let dollar : Scope := ⟨(Level.empty context).bind "$" context, []⟩
  have none : ¬dollar.Callable ident := by
    have apart : functionKey ident ≠ "$" := (dollar_ne_function_key (by decide) ident).symm
    simp [callable_iff, lookup_is_some_iff, levels, dollar, apart]
  have built : root context = dollar.withFunctions Builtins.table := rfl
  rw [built, callable_with_functions_iff, or_iff_left none, Builtins.names]

theorem SameFunctions.callable_iff {left right : Scope} (same : left.SameFunctions right)
    (ident : String) : left.Callable ident ↔ right.Callable ident := by
  rw [Scope.callable_iff, Scope.callable_iff, same.lookups]

theorem candidates_sorted (functions : Bool) : (scope.candidates functions).Pairwise (· < ·) :=
  NameMap.keys_sorted (NameMap.ordered_insert_all _ .nil)

/-- A message offers every function, without the marks in front of its name. -/
theorem mem_candidates_iff (name : String) :
    name ∈ scope.candidates true ↔ ∃ own, scope.Callable own ∧ unmarked own = name := by
  simp only [candidates, NameMap.mem_keys_iff, NameMap.contains_of_list, List.map_map,
    Function.comp_def, List.map_id', List.mem_flatMap, Level.mem_function_names, callable_iff,
    lookup_is_some_iff]
  constructor
  · rintro ⟨level, member, own, bound, same⟩
    exact ⟨own, ⟨level, member, bound⟩, same⟩
  · rintro ⟨own, ⟨level, member, bound⟩, same⟩
    exact ⟨level, member, own, bound, same⟩

theorem ordered_add_missing {fields : NameMap Ty} (ordered : NameMap.Ordered fields)
    (entries : List (String × Ty)) : NameMap.Ordered (addMissing fields entries) := by
  induction entries generalizing fields with
  | nil => exact ordered
  | cons entry rest ih =>
      apply ih
      dsimp only
      split
      · exact ordered
      · exact NameMap.ordered_insert entry.1 entry.2 ordered

theorem globals_sorted : scope.globals.fieldNames.Pairwise (· < ·) :=
  NameMap.keys_sorted (ordered_add_missing .nil _)

/-- The table of functions has just the functions that can be called. -/
theorem mem_globals_iff (name : String) :
    name ∈ scope.globals.fieldNames ↔ scope.Callable name := by
  simp [globals, Ty.fieldNames, NameMap.mem_keys_iff, NameMap.contains, get_add_missing,
    get_level_functions, callable_iff, NameMap.get?]

end Walks

/-- A call of an unknown function is refused with the callable functions in order, each once and
without the marks in front of its name, while the table of functions has just the callable ones as
its fields. So the message offers the fields of the table, which are the functions that can be
called, unless a function has a name that begins with the mark itself. -/
theorem offered_functions_callable_iff {scope : Scope} {ident : String} {error : TypeError}
    (refused : scope.functionNamed ident = .error error) :
    ∃ offered, error = .undefinedVariable ident offered ∧ offered.Pairwise (· < ·) ∧
      (∀ name, name ∈ offered ↔ ∃ own, scope.Callable own ∧ unmarked own = name) ∧
      scope.globals.fieldNames.Pairwise (· < ·) ∧
      (∀ name, name ∈ scope.globals.fieldNames ↔ scope.Callable name) ∧
      (offered = scope.globals.fieldNames ↔
        ∀ own, scope.Callable own → isFunctionKey own = false) := by
  refine ⟨scope.candidates true, (scope.refused_iff.mp refused).2, scope.candidates_sorted true,
    scope.mem_candidates_iff, scope.globals_sorted, scope.mem_globals_iff, ?_, ?_⟩
  · intro same own callable
    rw [← mem_globals_iff, ← same, mem_candidates_iff] at callable
    obtain ⟨other, _, rfl⟩ := callable
    exact unmarked_plain other
  · intro plain
    apply scope.candidates_sorted true |>.eq_of_mem_iff scope.globals_sorted
    intro name
    rw [mem_candidates_iff, mem_globals_iff]
    constructor
    · rintro ⟨own, callable, rfl⟩
      rwa [unmarked_of_plain (plain own callable)]
    · intro callable
      exact ⟨name, callable, unmarked_of_plain (plain name callable)⟩

def shoutingBlock : Scope :=
  ((base .string [("len", ⟨[.string], some .number⟩), ("shout", ⟨[.string], some .string⟩)]).child
    |>.declareLocal "$x" .number).2

theorem shouting_block_callable (ident : String) :
    shoutingBlock.Callable ident ↔ ident ∈ "shout" :: Builtins.names := by
  have same := (SameFunctions.declare_local (by decide : startsWithDollar "$x" = true) .number
    (base .string [("len", ⟨[.string], some .number⟩),
      ("shout", ⟨[.string], some .string⟩)]).child).trans (.child _)
  have known : "len" ∈ Builtins.names := by decide
  rw [shoutingBlock, same.callable_iff, base, callable_with_functions_iff, callable_root_iff]
  simp only [List.map_cons, List.map_nil, List.mem_cons, List.not_mem_nil, or_false]
  constructor
  · rintro ((rfl | shout) | builtin)
    · exact .inr known
    · exact .inl shout
    · exact .inr builtin
  · rintro (shout | builtin)
    · exact .inl (.inr shout)
    · exact .inr builtin

/-- Every function of the block has a name without marks, so a message offers just the fields of the
table of functions. -/
theorem misspelled_shout_offered :
    ∃ offered,
      shoutingBlock.functionNamed "shoot" = .error (.undefinedVariable "shoot" offered) ∧
      offered.Pairwise (· < ·) ∧
      (∀ own, shoutingBlock.Callable own → isFunctionKey own = false) ∧
      offered = shoutingBlock.globals.fieldNames ∧
      ∀ name, name ∈ shoutingBlock.globals.fieldNames ↔ name ∈ "shout" :: Builtins.names := by
  have unknown : "shoot" ∉ "shout" :: Builtins.names := by decide
  have refused := shoutingBlock.refused_iff.mpr
    ⟨mt (shouting_block_callable "shoot").mp unknown, rfl⟩
  have allPlain : ("shout" :: Builtins.names).all (!isFunctionKey ·) = true := by decide
  have plain : ∀ own, shoutingBlock.Callable own → isFunctionKey own = false := by
    intro own callable
    simpa using List.all_eq_true.mp allPlain own ((shouting_block_callable own).mp callable)
  obtain ⟨offered, same, sorted, _, _, fields, exact⟩ := offered_functions_callable_iff refused
  obtain rfl : shoutingBlock.candidates true = offered := (TypeError.undefinedVariable.inj same).2
  exact ⟨_, refused, sorted, plain, exact.mpr plain,
    fun name => (fields name).trans (shouting_block_callable name)⟩

def markedFunction : Scope :=
  base .string [("#x", ⟨[.string], some .string⟩)]

/-- The function can be called, but a message offers the name without the mark, which has just been
refused, and not its own. -/
theorem marked_function_offered_unmarked :
    markedFunction.Callable "#x" ∧ ¬markedFunction.Callable "x" ∧
    ∃ offered,
      markedFunction.functionNamed "x" = .error (.undefinedVariable "x" offered) ∧
      "x" ∈ offered ∧ "#x" ∉ offered ∧
      "#x" ∈ markedFunction.globals.fieldNames ∧ "x" ∉ markedFunction.globals.fieldNames := by
  have known (ident : String) :
      markedFunction.Callable ident ↔ ident = "#x" ∨ ident ∈ Builtins.names := by
    rw [markedFunction, base, callable_with_functions_iff, callable_root_iff]
    simp only [List.map_cons, List.map_nil, List.mem_singleton]
  have callable : markedFunction.Callable "#x" := (known _).mpr (.inl rfl)
  have unknown : ¬markedFunction.Callable "x" := mt (known _).mp (by decide)
  refine ⟨callable, unknown, _, markedFunction.refused_iff.mpr ⟨unknown, rfl⟩, ?_, ?_,
    (mem_globals_iff _ _).mpr callable, fun member => unknown ((mem_globals_iff _ _).mp member)⟩
  · rw [mem_candidates_iff]
    exact ⟨"#x", callable, by decide⟩
  · rw [mem_candidates_iff]
    rintro ⟨own, _, same⟩
    have plain := unmarked_plain own
    rw [same] at plain
    exact absurd plain (by decide)

end Scope

end TemplateScript
