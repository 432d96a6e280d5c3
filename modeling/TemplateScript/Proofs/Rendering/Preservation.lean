import TemplateScript.Proofs.Rendering.Lockstep

/-!
Checked templates run safely, and render what their trees say.

The function of a template starts with the dollar sign as its only variable, which is alike on both
sides. From there script and tree agree on every node, so the script comes to an end with everything
it evaluated of its type, and with the text of the tree.
-/
namespace TemplateScript

section

variable {F : Type} {world : World F}

theorem lookup_start {context : Ty} {functions : List (String × FunctionType)} {var name : String}
    {ty : Ty} (isVar : isVariable var = true)
    (found : Scope.lookup var (Scope.base context functions).child.levels = some (name, ty)) :
    var = "$" ∧ name = "$" ∧ context = ty := by
  rw [Scope.lookup_child] at found
  rcases Scope.lookup_cons_cases found with ⟨entry, rfl⟩ | ⟨_, further⟩
  · rcases Scope.binds_base (Level.binds_of_get entry) with ⟨ident, _, same⟩ | rfl
    · exact absurd same (dollar_ne_function_key (variable_starts_with_dollar isVar) ident)
    · rw [Scope.get_dollar_base] at entry
      exact ⟨rfl, rfl, Option.some.inj entry⟩
  · cases further

theorem alike_start {context : Ty} {functions : List (String × FunctionType)} {data : Datum F}
    (dataConform : Conforms world context data)
    (functionsConform : Conforms world (Scope.base context functions).globals world.globals)
    (hoisted : List String) :
    Alike world (Scope.base context functions).globals (Scope.base context functions).child data
      ⟨[Closure.start [("$", data)] hoisted], [], []⟩
      ⟨[NameMap.ofList [("$", ⟨context, data⟩)]], []⟩ where
  regular := ⟨.empty _ _, Scope.regular_base context functions⟩
  sameTable := Scope.globals_child _
  functions := functionsConform
  context := dataConform
  mirrors := by
    -- one block and one closure serve the level of the body and the outermost one
    refine .template ?_
    intro var name ty isVar found
    obtain ⟨rfl, rfl, rfl⟩ := lookup_start isVar found
    refine ⟨data, rfl, Stack.find_here _ ?_, dataConform⟩
    exact (get_start [("$", ⟨context, data⟩)] hoisted "$").trans rfl
  seen := by simp [Trace.Conform]
  out := rfl

theorem placed_start {root last : Scope} {data : Datum F} (outermost : root.outer = [])
    (grows : root.child.Grows last) :
    Placed last.levels (Stack.declared
      [Closure.start [("$", data)] (last.toFrame.hoisted [])]) := by
  have levels : last.levels = [last.level, root.level] := by
    rw [Scope.levels, grows.outer, Scope.child, Scope.levels, outermost]
  rw [levels]
  refine .template ?_
  intro name _ bound
  refine (contains_start _ _ _).mpr (.inr ?_)
  rw [Frame.hoisted, List.mem_filter, NameMap.mem_keys_iff]
  exact ⟨(has_to_frame _ last.level).mpr ⟨name, bound, rfl⟩, by simp⟩

theorem template_agrees {known : KnownTemplates} {tree : Tree} {context : Ty}
    {functions : List (String × FunctionType)} {checked : CheckedTemplate} {data : Datum F}
    (named : tree.named isVariable = true)
    (accepted : tree.check known (Scope.base context functions) = .ok checked)
    (dataConform : Conforms world context data)
    (functionsConform : Conforms world (Scope.base context functions).globals world.globals) :
    ∃ after, checked.run world data = .ok after ∧ after.seen.Conform world ∧
      (tree.parsed = true →
        tree.interpret? world (Scope.base context functions).globals ⟨context, data⟩ =
          some after.out) := by
  obtain ⟨last, body, _, frame⟩ := check_tree_ok_iff.mp accepted
  obtain ⟨name, text, pos, nodes⟩ := tree
  have grows := (check_nodes_typed nodes named body).grows
  obtain ⟨after, page, ran, alike, _, shown⟩ := nodes_agree nodes named body data _ _
    (alike_start dataConform functionsConform _)
    (placed_start (Scope.outer_base context functions) grows)
  refine ⟨after, ?_, alike.seen, ?_⟩
  · rw [CheckedTemplate.run, frame]
    exact ran
  · intro parsed
    rw [alike.out]
    exact congrArg (Option.map Page.out) (shown parsed)

end

def rosterWorld : World Constant.Value where
  apply := fun id _ _ => .ofConstant id
  globals := .object (Builtins.table.map fun (name, function) =>
    (units name, .function (match function.ret with
      | some .boolean => .bool true
      | some .number => .number (.ofNat 3)
      | _ => .string "text")))
  render := fun name _ => units name

def rosterType : Ty :=
  .object [("Label", .function [] (some .string)), ("Names", .array .string)] [("Names", "names")]

def rosterData : Datum Constant.Value :=
  .object [(units "Label", .function (.string "label")),
    (units "names", .array [.string (units "ann"), .string (units "bob")])]

/-- A loop that reads a variable of the template, assigns it and then hides it by one of another
type. -/
def rosterTree : Tree where
  name := "roster"
  text := ""
  root := ⟨0,
    [.action 0 ⟨0, false, [⟨0, ["$x"]⟩], [⟨0, [.field 0 ["Label"]]⟩]⟩,
      .branch .range 0 ⟨0, false, [⟨0, ["$i"]⟩, ⟨0, ["$name"]⟩], [⟨0, [.field 0 ["Names"]]⟩]⟩
        ⟨0, [.action 0 ⟨0, false, [], [⟨0, [.var ⟨0, ["$x"]⟩]⟩]⟩,
          .action 0 ⟨0, true, [⟨0, ["$x"]⟩], [⟨0, [.var ⟨0, ["$name"]⟩]⟩]⟩,
          .action 0 ⟨0, false, [⟨0, ["$x"]⟩], [⟨0, [.var ⟨0, ["$i"]⟩]⟩]⟩,
          .action 0 ⟨0, false, [], [⟨0, [.var ⟨0, ["$x"]⟩]⟩]⟩]⟩
        (some ⟨0, [.text 0 "nobody"]⟩),
      .action 0 ⟨0, false, [], [⟨0, [.var ⟨0, ["$x"]⟩]⟩]⟩,
      .action 0 ⟨0, false, [], [⟨0, [.identifier 0 "len", .field 0 ["Names"]]⟩]⟩]⟩

/-- Computed together, since each part needs the outermost scope. -/
theorem roster_computed :
    (rosterTree.check none (Scope.base rosterType [])).toOption.isSome = true ∧
      conformsTest Datum.ofConstant rosterType rosterData = true ∧
      conformsTest Datum.ofConstant (Scope.base rosterType []).globals rosterWorld.globals = true ∧
      rosterTree.interpret? rosterWorld (Scope.base rosterType []).globals
        ⟨rosterType, rosterData⟩ = some (units "label0ann1bob3") := by
  decide +kernel

theorem roster_accepted :
    ∃ checked, rosterTree.check none (Scope.base rosterType []) = .ok checked :=
  ok_of_to_option roster_computed.1

theorem roster_data_conforms : Conforms rosterWorld rosterType rosterData :=
  conforms_of_test (fun _ _ _ => rfl) rosterType rosterData roster_computed.2.1

theorem roster_functions_conform :
    Conforms rosterWorld (Scope.base rosterType []).globals rosterWorld.globals :=
  conforms_of_test (fun _ _ _ => rfl) _ rosterWorld.globals roster_computed.2.2.1

/-- The script of a checked template comes to an end: it reads no member that is missing, calls no
value that is not a function, ranges over no value that is not an array and reads no variable before
it is written. Every expression that it evaluates has a value of its type. -/
theorem execution_type_sound {F : Type} (known : KnownTemplates) (tree : Tree) (context : Ty)
    (functions : List (String × FunctionType)) (checked : CheckedTemplate) (world : World F)
    (data : Datum F) (named : tree.named isVariable = true)
    (accepted : tree.check known (Scope.base context functions) = .ok checked)
    (dataConform : Conforms world context data)
    (functionsConform : Conforms world (Scope.base context functions).globals world.globals) :
    ∃ after, checked.run world data = .ok after ∧
      ∀ found datum, (found, datum) ∈ after.seen → Conforms world found.ty datum := by
  obtain ⟨after, ran, conform, _⟩ :=
    template_agrees named accepted dataConform functionsConform
  exact ⟨after, ran, fun found datum member => conform (found, datum) member⟩

theorem roster_type_sound :
    ∃ checked after, rosterTree.check none (Scope.base rosterType []) = .ok checked ∧
      checked.run rosterWorld rosterData = .ok after ∧
      ∀ found datum, (found, datum) ∈ after.seen → Conforms rosterWorld found.ty datum := by
  obtain ⟨checked, accepted⟩ := roster_accepted
  obtain ⟨after, ran, conform⟩ := execution_type_sound none rosterTree rosterType [] checked
    rosterWorld rosterData (by decide) accepted roster_data_conforms roster_functions_conform
  exact ⟨checked, after, accepted, ran, conform⟩

/-- The script of a checked template renders what its tree means. -/
theorem rendering_preserved {F : Type} (known : KnownTemplates) (tree : Tree) (context : Ty)
    (functions : List (String × FunctionType)) (checked : CheckedTemplate) (world : World F)
    (data : Datum F) (named : tree.named isVariable = true) (parsed : tree.parsed = true)
    (accepted : tree.check known (Scope.base context functions) = .ok checked)
    (dataConform : Conforms world context data)
    (functionsConform : Conforms world (Scope.base context functions).globals world.globals) :
    ∃ after text, checked.run world data = .ok after ∧
      tree.interpret? world (Scope.base context functions).globals ⟨context, data⟩ = some text ∧
      after.out = text := by
  obtain ⟨after, ran, _, shown⟩ := template_agrees named accepted dataConform functionsConform
  exact ⟨after, after.out, ran, shown parsed, rfl⟩

theorem roster_rendering_preserved :
    ∃ checked after, rosterTree.check none (Scope.base rosterType []) = .ok checked ∧
      checked.run rosterWorld rosterData = .ok after ∧ after.out = units "label0ann1bob3" := by
  obtain ⟨checked, accepted⟩ := roster_accepted
  obtain ⟨after, text, ran, shown, same⟩ := rendering_preserved none rosterTree rosterType []
    checked rosterWorld rosterData (by decide) (by decide) accepted roster_data_conforms
    roster_functions_conform
  rw [roster_computed.2.2.2] at shown
  exact ⟨checked, after, accepted, ran, same.trans (Option.some.inj shown).symm⟩

end TemplateScript
