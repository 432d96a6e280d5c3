import TemplateScript.Proofs.Scope.Arms

/-!
What becomes of the targets of pipelines.

The outline of a tree says, node by node, how every target in it has to be answered: by a
declaration or an assignment under the name that the variable has there, or by what a block binds.
It is told from the tree and from names alone, without types and without the checker. The outline
of a checked template lists what its statements bind. For accepted trees the two are the same, so
that no target is lost, but for one oversight: the targets of a pipeline that is handed to another
template are never looked at.
-/
namespace TemplateScript

inductive Binding
  | declared (generated : String)
  | assigned (generated : String)
  /-- The variable of a conditional. -/
  | bound (name : String)
  /-- The variable for the index of a loop. -/
  | index (name : String)
  /-- The variable for the element of a loop. -/
  | value (name : String)
  /-- No statement can stand for the target. -/
  | unanswered

inductive Outline
  | simple (bindings : List Binding)
  | block (bindings : List Binding) (body otherwise : List Outline)

mutual

def Statement.outline : Statement → Outline
  | .text _ | .emit _ | .include _ _ => .simple []
  | .declare name _ => .simple [.declared name]
  | .assign name _ => .simple [.assigned name]
  | .conditional _ _ bound body _ otherwise _ =>
      .block (bound.toList.map .bound) (Statement.outlines body) (Statement.outlines otherwise)
  | .loop _ index value body _ otherwise _ =>
      .block (index.toList.map .index ++ value.toList.map .value) (Statement.outlines body)
        (Statement.outlines otherwise)

def Statement.outlines : List Statement → List Outline
  | [] => []
  | first :: rest => first.outline :: Statement.outlines rest

end

def CheckedTemplate.outline (checked : CheckedTemplate) : List Outline :=
  Statement.outlines checked.body

/-- What the open levels call the variables that they bind, innermost first. -/
abbrev Naming := List (String → Option String)

namespace Naming

def find (name : String) (naming : Naming) : Option String :=
  naming.findSome? fun level => level name

/-- The name under which a variable is declared: the one that its level has given it before, and
otherwise its own, unless that hides a variable of an enclosing level. -/
def declared (name : String) : Naming → String
  | [] => name
  | level :: outer =>
      (level name).getD
        (if (find name outer).isSome then Scope.shadowName name outer.length else name)

def declare (name : String) : Naming → Naming
  | [] => []
  | level :: outer =>
      (fun other => if other = name then some (declared name (level :: outer)) else level other) ::
        outer

def enter (params : List String) (naming : Naming) : Naming :=
  (fun name => if name ∈ params then some name else none) :: naming

end Naming

def Variable.name? (target : Variable) : Option String :=
  match target.ident with
  | [name] => some name
  | _ => none

def Variable.answer (how : String → Binding) (target : Variable) : Binding :=
  (target.name?.map how).getD .unanswered

def unanswered (targets : List Variable) : List Binding :=
  targets.map fun _ => .unanswered

def Pipe.targetNames (pipe : Pipe) : List String :=
  pipe.targets.filterMap Variable.name?

def Pipe.actionBindings (naming : Naming) (pipe : Pipe) : List Binding :=
  if pipe.assigns then
    pipe.targets.map (Variable.answer fun name =>
      ((naming.find name).map .assigned).getD .unanswered)
  else pipe.targets.map (Variable.answer fun name => .declared (naming.declared name))

/-- How the targets of a block are answered. Blocks cannot assign. -/
def Pipe.branchBindings (kind : BranchKind) (pipe : Pipe) : List Binding :=
  if pipe.assigns then unanswered pipe.targets
  else
    match kind, pipe.targets with
    | .range, [value] => [value.answer .value]
    | .range, [index, value] => [index.answer .index, value.answer .value]
    | .range, targets => unanswered targets
    | _, targets => targets.map (Variable.answer .bound)

mutual

def Arg.targets : Arg → List Variable
  | .pipe inner => inner.allTargets
  | .number _ _ | .string _ _ | .bool _ _ | .dot _ | .field _ _ | .identifier _ _ | .var _ => []

def Arg.targetsAll : List Arg → List Variable
  | [] => []
  | arg :: rest => arg.targets ++ Arg.targetsAll rest

def Command.targets : Command → List Variable
  | ⟨_, args⟩ => Arg.targetsAll args

def Command.targetsAll : List Command → List Variable
  | [] => []
  | command :: rest => command.targets ++ Command.targetsAll rest

def Pipe.allTargets : Pipe → List Variable
  | ⟨_, _, targets, commands⟩ => targets ++ Command.targetsAll commands

end

/-- The names after a node: an action may have declared variables. -/
def Node.after (naming : Naming) : Node → Naming
  | .action _ pipe =>
      if pipe.assigns then naming
      else pipe.targetNames.foldl (fun naming name => naming.declare name) naming
  | .text _ _ | .comment _ _ | .branch _ _ _ _ _ | .template _ _ _ => naming

mutual

/-- A comment leaves nothing behind. Nothing can answer a target in parentheses, or one of a
pipeline that is handed to another template. -/
def Node.outline (naming : Naming) : Node → List Outline
  | .text _ _ | .template _ _ none => [.simple []]
  | .comment _ _ => []
  | .action _ pipe =>
      [.simple (pipe.actionBindings naming ++ unanswered (Command.targetsAll pipe.commands))]
  | .template _ _ (some pipe) => [.simple (unanswered pipe.allTargets)]
  | .branch kind _ pipe body none =>
      [.block (pipe.branchBindings kind ++ unanswered (Command.targetsAll pipe.commands))
        (body.outlines (naming.enter pipe.targetNames)) []]
  | .branch kind _ pipe body (some otherwise) =>
      [.block (pipe.branchBindings kind ++ unanswered (Command.targetsAll pipe.commands))
        (body.outlines (naming.enter pipe.targetNames)) (otherwise.outlines (naming.enter []))]

def Node.outlines (naming : Naming) : List Node → List Outline
  | [] => []
  | node :: rest => node.outline naming ++ Node.outlines (node.after naming) rest

def Block.outlines (naming : Naming) : Block → List Outline
  | ⟨_, nodes⟩ => Node.outlines naming nodes

end

def Tree.outline (naming : Naming) (tree : Tree) : List Outline :=
  tree.root.outlines (naming.enter [])

mutual

def Node.handedTargets : Node → List Variable
  | .text _ _ | .comment _ _ | .action _ _ | .template _ _ none => []
  | .template _ _ (some pipe) => pipe.targets
  | .branch _ _ _ body none => body.handedTargets
  | .branch _ _ _ body (some otherwise) => body.handedTargets ++ otherwise.handedTargets

def Node.handedTargetsAll : List Node → List Variable
  | [] => []
  | node :: rest => node.handedTargets ++ Node.handedTargetsAll rest

def Block.handedTargets : Block → List Variable
  | ⟨_, nodes⟩ => Node.handedTargetsAll nodes

end

def Tree.handedTargets (tree : Tree) : List Variable :=
  tree.root.handedTargets

def Scope.naming (scope : Scope) : Naming :=
  scope.levels.map fun level name => (level.find? name).map Prod.fst

theorem find_naming (name : String) (levels : List Level) :
    Naming.find name (levels.map fun level name => (level.find? name).map Prod.fst) =
      (Scope.lookup name levels).map Prod.fst := by
  induction levels with
  | nil => rfl
  | cons level outer ih =>
      simp only [Naming.find, Scope.lookup, List.map_cons, List.findSome?_cons] at ih ⊢
      cases level.find? name with
      | none => simpa using ih
      | some found => rfl

def Level.Tidy (level : Level) : Prop :=
  ∀ name generated, NameMap.get? name level.renamed = some generated → level.binds name = true

theorem tidy_declare_local {scope : Scope} (tidy : scope.level.Tidy) (name : String) (ty : Ty) :
    (scope.declareLocal name ty).2.level.Tidy := by
  intro key generated entry
  rw [Scope.renamed_declare_local] at entry
  rw [Scope.binds_declare_local]
  split at entry
  · next own => simp [own.1]
  · simp [tidy key generated entry]

theorem declared_name {scope : Scope} (tidy : scope.level.Tidy) (name : String) (ty : Ty) :
    (scope.declareLocal name ty).1 = scope.naming.declared name := by
  have generated : (scope.declareLocal name ty).1 =
      (scope.declareLocal name ty).2.level.generatedName name := rfl
  have outer := find_naming name scope.outer
  rw [generated]
  simp only [Scope.naming, Scope.levels, List.map_cons, Naming.declared, outer, Option.isSome_map,
    List.length_map]
  cases bound : scope.level.binds name with
  | true =>
      obtain ⟨own, entry⟩ := Level.type_of_binds bound
      rw [Scope.generated_name_kept name ty bound]
      simp [Level.find_of_get entry]
  | false =>
      -- a tidy level has not renamed it yet, so it is renamed now exactly if it hides one
      have absent : NameMap.get? name scope.level.renamed = none := by
        cases entry : NameMap.get? name scope.level.renamed with
        | none => rfl
        | some other => simp [tidy name other entry] at bound
      have hidden : scope.hides name = (Scope.lookup name scope.outer).isSome := by
        simp only [Level.binds] at bound
        simp [Scope.hides, bound]
      simp only [Level.find_of_unbound bound, Option.map_none, Option.getD_none, ← hidden,
        Level.generatedName, Scope.renamed_declare_local, true_and, absent, Scope.depth]
      cases scope.hides name <;> rfl

theorem naming_declare_local {scope : Scope} (tidy : scope.level.Tidy) (name : String) (ty : Ty) :
    (scope.declareLocal name ty).2.naming = scope.naming.declare name := by
  have own := declared_name tidy name ty
  simp only [Scope.naming, Scope.levels, List.map_cons, Naming.declare, List.cons.injEq,
    Scope.outer_declare_local, and_true] at own ⊢
  funext other
  by_cases same : other = name
  · subst same
    have entry : NameMap.get? other (scope.declareLocal other ty).2.level.bindings = some ty := by
      simp
    rw [Level.find_of_get entry, if_pos rfl, ← own]
    rfl
  · have renamed := Scope.renamed_declare_local other name ty scope
    rw [if_neg fun both => same both.1] at renamed
    simp [Level.find?, Level.generatedName, renamed, same]

theorem Scope.Arm.naming {scope child : Scope} {params : List String}
    (arm : scope.Arm child params) : child.naming = scope.naming.enter params := by
  simp only [Scope.naming, Scope.levels, arm.outer, List.map_cons, Naming.enter, List.cons.injEq,
    and_true]
  funext name
  cases bound : child.level.binds name with
  | true =>
      obtain ⟨ty, entry⟩ := Level.type_of_binds bound
      rw [Level.find_of_get entry, if_pos ((arm.binds name).mp bound)]
      simp [Level.generatedName, arm.renamed, NameMap.get?]
  | false =>
      have absent : name ∉ params := by
        intro member
        simp [(arm.binds name).mpr member] at bound
      simp [Level.find_of_unbound bound, absent]

theorem Scope.Arm.tidy {scope child : Scope} {params : List String}
    (arm : scope.Arm child params) : child.level.Tidy := by
  intro name generated entry
  simp [arm.renamed, NameMap.get?] at entry

mutual

theorem check_arg_targets {scope : Scope} : (arg : Arg) → {found : Expr} →
    checkArg scope arg = .ok found → arg.targets = []
  | .number pos literal, found, _ => rfl
  | .string pos content, found, _ => rfl
  | .bool pos value, found, _ => rfl
  | .dot pos, found, _ => rfl
  | .field pos ident, found, _ => rfl
  | .identifier pos ident, found, _ => rfl
  | .var reading, found, _ => rfl
  | .pipe ⟨pos, assigns, targets, commands⟩, found, checked => by
      simp only [checkArg] at checked
      split at checked
      · next empty =>
          have nested := check_commands_targets commands (check_pipe_ok checked)
          simpa [Arg.targets, Pipe.allTargets, nested] using empty
      · cases checked

theorem check_args_targets {scope : Scope} : (args : List Arg) → {found : List Expr} →
    checkArgs scope args = .ok found → Arg.targetsAll args = []
  | [], found, _ => rfl
  | arg :: rest, found, checked => by
      obtain ⟨first, others, firstChecked, othersChecked, rfl⟩ := check_args_ok checked
      have here := check_arg_targets arg firstChecked
      have further := check_args_targets rest othersChecked
      simp [Arg.targetsAll, here, further]

theorem check_commands_targets {scope : Scope} {whole : Pipe} : (commands : List Command) →
    {piped found : Option Expr} → checkCommands scope whole piped commands = .ok found →
    Command.targetsAll commands = []
  | [], piped, found, _ => rfl
  | ⟨pos, []⟩ :: rest, piped, found, checked => by
      obtain ⟨value, first, _⟩ := bind_ok_iff.mp checked
      cases first
  | ⟨pos, head :: args⟩ :: rest, piped, found, checked => by
      obtain ⟨value, first, further⟩ := bind_ok_iff.mp checked
      obtain ⟨_, _, others, same, argsChecked, headChecked⟩ := check_command_ok first
      obtain ⟨rfl, rfl⟩ := List.cons.inj same
      have inArgs := check_args_targets args argsChecked
      have inRest := check_commands_targets rest further
      -- a head in parentheses is checked like any argument; the other heads have no targets
      have inHead : head.targets = [] := by
        cases head with
        | pipe inner => exact check_arg_targets _ (check_head_value_ok (by simp) headChecked).2
        | _ => rfl
      simp [Command.targetsAll, Command.targets, Arg.targetsAll, inHead, inArgs, inRest]

end

theorem check_pipe_targets {scope : Scope} {pipe : Pipe} {found : Expr}
    (checked : checkPipe scope pipe = .ok found) : Command.targetsAll pipe.commands = [] :=
  check_commands_targets pipe.commands (check_pipe_ok checked)

theorem answers_of_single {targets : List Variable} {names : List String}
    (single : targets.map Variable.ident = names.map fun name => [name])
    (how : String → Binding) : targets.map (Variable.answer how) = names.map how := by
  induction targets generalizing names with
  | nil =>
      have none : names = [] := by simpa using single.symm
      simp [none]
  | cons target rest ih =>
      cases names with
      | nil => simp at single
      | cons name names =>
          simp only [List.map_cons, List.cons.injEq] at single
          simp [Variable.answer, Variable.name?, single.1, ih single.2]

theorem target_names_of_single {pipe : Pipe} {names : List String}
    (single : pipe.targets.map Variable.ident = names.map fun name => [name]) :
    pipe.targetNames = names := by
  unfold Pipe.targetNames
  generalize pipe.targets = targets at single
  induction targets generalizing names with
  | nil => simpa using single
  | cons target rest ih =>
      cases names with
      | nil => simp at single
      | cons name names =>
          simp only [List.map_cons, List.cons.injEq] at single
          simp [Variable.name?, single.1, ih single.2]

theorem check_action_outline {scope next : Scope} {pos : Offset} {pipe : Pipe}
    {statement : Statement} (tidy : scope.level.Tidy)
    (checked : checkAction scope pos pipe = .ok (statement, next)) :
    Node.outline scope.naming (.action pos pipe) = [statement.outline] ∧
      next.naming = Node.after scope.naming (.action pos pipe) ∧ next.level.Tidy := by
  obtain ⟨value, valued, ⟨empty, rfl, rfl⟩ | ⟨name, single, bound⟩⟩ := check_action_ok checked
  · have nested := check_pipe_targets valued
    refine ⟨?_, ?_, tidy⟩
    · simp [Node.outline, Pipe.actionBindings, empty, nested, unanswered, Statement.outline]
    · simp [Node.after, Pipe.targetNames, empty]
  · have nested := check_pipe_targets valued
    have one : pipe.targets.map Variable.ident = [name].map fun name => [name] := single
    have names := target_names_of_single one
    rcases bound with ⟨assigns, rfl, generated, entry, rfl⟩ | ⟨declares, rfl, rfl⟩
    · have found : next.naming.find name = some generated := by
        simp [Scope.naming, find_naming, entry]
      refine ⟨?_, ?_, tidy⟩
      · simp [Node.outline, Pipe.actionBindings, assigns, answers_of_single one, found, nested,
          unanswered, Statement.outline]
      · simp [Node.after, assigns]
    · refine ⟨?_, ?_, tidy_declare_local tidy name value.ty⟩
      · simp [Node.outline, Pipe.actionBindings, declares, answers_of_single one, nested,
          unanswered, Statement.outline, declared_name tidy]
      · simp [Node.after, declares, names, naming_declare_local tidy]

theorem loop_bindings {pipe : Pipe} {index value : Option String} (declares : pipe.assigns = false)
    (single : pipe.targets.map Variable.ident =
      (index.toList ++ value.toList).map fun name => [name])
    (ordered : value = none → index = none) :
    pipe.branchBindings .range = index.toList.map .index ++ value.toList.map .value := by
  unfold Pipe.branchBindings
  rw [declares]
  generalize pipe.targets = targets at single
  cases value with
  | none =>
      have empty : targets = [] := by simpa [ordered rfl] using single
      simp [ordered rfl, empty, unanswered]
  | some element =>
      cases index with
      | none =>
          obtain ⟨target, rfl, named⟩ :
              ∃ target, targets = [target] ∧ target.ident = [element] := by
            simpa using single
          simp [Variable.answer, Variable.name?, named]
      | some position =>
          obtain ⟨first, second, rfl, firstNamed, secondNamed⟩ : ∃ first second,
              targets = [first, second] ∧ first.ident = [position] ∧ second.ident = [element] := by
            simp only [Option.toList_some, List.singleton_append, List.map_cons, List.map_nil,
              List.map_eq_cons_iff, List.map_eq_nil_iff] at single
            obtain ⟨first, _, rfl, firstNamed, second, _, rfl, secondNamed, rfl⟩ := single
            exact ⟨first, second, rfl, firstNamed, secondNamed⟩
          simp [Variable.answer, Variable.name?, firstNamed, secondNamed]

/-- A block answers the targets of its pipeline, and its arm starts with them. -/
theorem open_branch_outline {scope child : Scope} {kind : BranchKind} {pos : Offset} {pipe : Pipe}
    {render : Unit → String} {head : BranchHead}
    (opened : openBranch scope kind pos pipe render = .ok (head, child)) :
    scope.Arm child pipe.targetNames ∧
      ∀ inner frame other otherFrame,
        (head.close inner frame other otherFrame).outline =
          .block (pipe.branchBindings kind ++ unanswered (Command.targetsAll pipe.commands))
            (Statement.outlines inner) (Statement.outlines other) := by
  obtain ⟨declares, ⟨notRange, conditional⟩ | ⟨rfl, loop⟩⟩ := open_branch_ok opened
  · obtain ⟨test, bound, tested, single, rfl, rfl⟩ := open_conditional_ok conditional
    have bindings : pipe.branchBindings kind = bound.toList.map .bound := by
      have answers := answers_of_single single .bound
      cases kind with
      | range => exact absurd rfl notRange
      | _ => simpa [Pipe.branchBindings, declares] using answers
    rw [target_names_of_single single]
    refine ⟨.conditional scope _ bound test.ty, ?_⟩
    intro inner frame other otherFrame
    simp [BranchHead.close, Statement.outline, bindings, check_pipe_targets tested, unanswered]
  · obtain ⟨subject, index, value, element, checked, _, single, ordered, rfl, rfl⟩ :=
      open_loop_ok loop
    have bindings := loop_bindings declares single ordered
    rw [target_names_of_single single]
    refine ⟨.loop scope index value element, ?_⟩
    intro inner frame other otherFrame
    simp [BranchHead.close, Statement.outline, bindings, check_pipe_targets checked, unanswered]

theorem outlines_append (left right : List Statement) :
    Statement.outlines (left ++ right) = Statement.outlines left ++ Statement.outlines right := by
  induction left with
  | nil => rfl
  | cons first rest ih => simp [Statement.outlines, ih]

theorem check_node_after {known : KnownTemplates} {scope next : Scope} {node : Node}
    {statements : List Statement} (tidy : scope.level.Tidy)
    (checked : checkNode known scope node = .ok (statements, next)) :
    next.naming = node.after scope.naming ∧ next.level.Tidy := by
  cases node with
  | text pos content | comment pos content =>
      simp only [checkNode, Except.ok.injEq, Prod.mk.injEq] at checked
      rw [← checked.2]
      exact ⟨rfl, tidy⟩
  | action pos pipe =>
      obtain ⟨statement, action, _⟩ := check_action_node_ok_iff.mp checked
      exact (check_action_outline tidy action).2
  | template pos name pipe =>
      obtain ⟨_, _, _, rfl⟩ := check_template_node_ok_iff.mp checked
      exact ⟨rfl, tidy⟩
  | branch kind pos pipe body otherwise =>
      obtain ⟨_, _, _, _, _, _, _, _, _, _, rfl⟩ := check_branch_ok_iff.mp checked
      exact ⟨rfl, tidy⟩

theorem outline_length (naming : Naming) {known : KnownTemplates} {scope next : Scope} {node : Node}
    {statements : List Statement}
    (checked : checkNode known scope node = .ok (statements, next)) :
    (node.outline naming).length = (Statement.outlines statements).length := by
  cases node with
  | text pos content | comment pos content =>
      simp only [checkNode, Except.ok.injEq, Prod.mk.injEq] at checked
      simp [← checked.1, Node.outline, Statement.outlines]
  | action pos pipe =>
      obtain ⟨statement, _, rfl⟩ := check_action_node_ok_iff.mp checked
      simp [Node.outline, Statement.outlines]
  | template pos name pipe =>
      obtain ⟨statement, _, rfl, _⟩ := check_template_node_ok_iff.mp checked
      cases pipe <;> simp [Node.outline, Statement.outlines]
  | branch kind pos pipe body otherwise =>
      obtain ⟨_, _, _, _, _, _, _, _, _, rfl, _⟩ := check_branch_ok_iff.mp checked
      cases otherwise <;> simp [Node.outline, Statement.outlines]

theorem check_template_outline {known : KnownTemplates} {scope : Scope} {pos : Offset}
    {name : String} {pipe : Option Pipe} {statement : Statement} (naming : Naming)
    (checked : checkTemplate known scope pos name pipe = .ok statement) :
    Node.outline naming (.template pos name pipe) = [statement.outline] ↔
      (Node.template pos name pipe).handedTargets = [] := by
  obtain ⟨_, ⟨rfl, rfl⟩ | ⟨⟨_, _, targets, commands⟩, value, rfl, valued, rfl⟩⟩ :=
    check_template_ok_iff.mp checked
  · simp [Node.outline, Statement.outline, Node.handedTargets]
  · have nested : Command.targetsAll commands = [] := check_pipe_targets valued
    simp [Node.outline, Statement.outline, Node.handedTargets, Pipe.allTargets, nested, unanswered]

theorem check_branch_outline {scope child innerEnd otherEnd : Scope} {kind : BranchKind}
    {pos : Offset} {pipe : Pipe} {render : Unit → String} {head : BranchHead}
    {inner other : List Statement} {body otherwise : List Outline}
    (opened : openBranch scope kind pos pipe render = .ok (head, child)) :
    ([.block (pipe.branchBindings kind ++ unanswered (Command.targetsAll pipe.commands)) body
        otherwise] : List Outline) =
      Statement.outlines [head.close inner innerEnd.toFrame other otherEnd.toFrame] ↔
      body = Statement.outlines inner ∧ otherwise = Statement.outlines other := by
  have closed := (open_branch_outline opened).2 inner innerEnd.toFrame other otherEnd.toFrame
  simp [Statement.outlines, closed]

mutual

theorem check_node_outline {known : KnownTemplates} : (node : Node) → {scope next : Scope} →
    {statements : List Statement} → scope.level.Tidy →
    checkNode known scope node = .ok (statements, next) →
    (node.outline scope.naming = Statement.outlines statements ↔ node.handedTargets = [])
  | .text pos content, scope, next, statements, _, checked => by
      simp only [checkNode, Except.ok.injEq, Prod.mk.injEq] at checked
      simp [← checked.1, Node.outline, Statement.outlines, Statement.outline, Node.handedTargets]
  | .comment pos content, scope, next, statements, _, checked => by
      simp only [checkNode, Except.ok.injEq, Prod.mk.injEq] at checked
      simp [← checked.1, Node.outline, Statement.outlines, Node.handedTargets]
  | .action pos pipe, scope, next, statements, tidy, checked => by
      obtain ⟨statement, action, rfl⟩ := check_action_node_ok_iff.mp checked
      simp [(check_action_outline tidy action).1, Statement.outlines, Node.handedTargets]
  | .template pos name pipe, scope, next, statements, _, checked => by
      obtain ⟨statement, template, rfl, _⟩ := check_template_node_ok_iff.mp checked
      exact check_template_outline scope.naming template
  | .branch kind pos pipe ⟨_, body⟩ none, scope, next, statements, _, checked => by
      obtain ⟨head, child, inner, innerEnd, other, otherEnd, opened, innerChecked, otherChecked,
        rfl, _⟩ := check_branch_ok_iff.mp checked
      have arm := (open_branch_outline opened).1
      have inBody := check_nodes_outline body arm.tidy innerChecked
      have inOther := check_nodes_outline [] (Scope.Arm.child scope).tidy otherChecked
      rw [arm.naming] at inBody
      rw [Node.outline, check_branch_outline opened, Block.outlines, inBody]
      simpa [Node.outlines, Node.handedTargets, Block.handedTargets, Node.handedTargetsAll]
        using fun _ => inOther
  | .branch kind pos pipe ⟨_, body⟩ (some ⟨_, otherwise⟩), scope, next, statements, _,
      checked => by
      obtain ⟨head, child, inner, innerEnd, other, otherEnd, opened, innerChecked, otherChecked,
        rfl, _⟩ := check_branch_ok_iff.mp checked
      have arm := (open_branch_outline opened).1
      have inBody := check_nodes_outline body arm.tidy innerChecked
      have inOther := check_nodes_outline otherwise (Scope.Arm.child scope).tidy otherChecked
      rw [arm.naming] at inBody
      rw [(Scope.Arm.child scope).naming] at inOther
      rw [Node.outline, check_branch_outline opened, Block.outlines, Block.outlines, inBody,
        inOther]
      simp [Node.handedTargets, Block.handedTargets]

theorem check_nodes_outline {known : KnownTemplates} : (nodes : List Node) →
    {scope last : Scope} → {statements : List Statement} → scope.level.Tidy →
    checkNodes known scope nodes = .ok (statements, last) →
    (Node.outlines scope.naming nodes = Statement.outlines statements ↔
      Node.handedTargetsAll nodes = [])
  | [], scope, last, statements, _, checked => by
      simp only [checkNodes, Except.ok.injEq, Prod.mk.injEq] at checked
      simp [← checked.1, Node.outlines, Statement.outlines, Node.handedTargetsAll]
  | node :: rest, scope, last, statements, tidy, checked => by
      obtain ⟨first, next, more, firstChecked, moreChecked, rfl⟩ :=
        check_nodes_cons_ok_iff.mp checked
      obtain ⟨naming, nextTidy⟩ := check_node_after tidy firstChecked
      have here := check_node_outline node tidy firstChecked
      have further := check_nodes_outline rest nextTidy moreChecked
      have aligned := outline_length scope.naming firstChecked
      rw [naming] at further
      rw [Node.outlines, outlines_append, List.append_eq_append_iff_of_size_eq_left aligned, here,
        further, Node.handedTargetsAll, List.append_eq_nil_iff]

end

/-- An accepted tree has every target answered, at its place and under its name, exactly when no
pipeline that it hands to another template has a target. -/
theorem targets_answered {known : KnownTemplates} {root : Scope} {tree : Tree}
    {checked : CheckedTemplate} (accepted : tree.check known root = .ok checked) :
    tree.outline root.naming = checked.outline ↔ tree.handedTargets = [] := by
  obtain ⟨last, body, _, _⟩ := check_tree_ok_iff.mp accepted
  obtain ⟨name, text, pos, nodes⟩ := tree
  have outlines := check_nodes_outline nodes (Scope.Arm.child root).tidy body
  rw [(Scope.Arm.child root).naming] at outlines
  exact outlines

def listingTree : Tree :=
  ⟨"listing", "", ⟨0,
    [.action 0 ⟨0, false, [⟨0, ["$x"]⟩], [⟨0, [.dot 0]⟩]⟩,
      .comment 0 "rows",
      .branch .range 0 ⟨0, false, [⟨0, ["$i"]⟩, ⟨0, ["$e"]⟩], [⟨0, [.var ⟨0, ["$x"]⟩]⟩]⟩
        ⟨0, [.action 0 ⟨0, false, [⟨0, ["$x"]⟩], [⟨0, [.var ⟨0, ["$e"]⟩]⟩]⟩,
          .action 0 ⟨0, true, [⟨0, ["$x"]⟩], [⟨0, [.string 0 "none"]⟩]⟩]⟩
        (some ⟨0, [.branch .if 0 ⟨0, false, [⟨0, ["$y"]⟩], [⟨0, [.dot 0]⟩]⟩ ⟨0, []⟩ none]⟩),
      .template 0 "foot" (some ⟨0, false, [], [⟨0, [.var ⟨0, ["$x"]⟩]⟩]⟩)]⟩⟩

def listingScope : Scope :=
  ⟨(Level.empty (.array .string)).bind "$" (.array .string), []⟩

theorem listing_targets_answered :
    ∃ checked, listingTree.check none listingScope = .ok checked ∧
      checked.outline =
        [.simple [.declared "$x"],
          .block [.index "$i", .value "$e"]
            [.simple [.declared "$x$2"], .simple [.assigned "$x$2"]] [.block [.bound "$y"] [] []],
          .simple []] := by
  have succeeds : (listingTree.check none listingScope).toOption.isSome = true := by
    decide +kernel
  obtain ⟨checked, accepted⟩ := ok_of_to_option succeeds
  refine ⟨checked, accepted, ?_⟩
  rw [← (targets_answered accepted).mpr rfl]
  rfl

def handedDeclaration : Tree :=
  ⟨"page", "", ⟨0, [.template 0 "row" (some ⟨0, false, [⟨0, ["$x"]⟩], [⟨0, [.dot 0]⟩]⟩)]⟩⟩

theorem handed_target_lost :
    ∃ checked, handedDeclaration.check none (Scope.root .string) = .ok checked ∧
      checked.body = [.include "row" (some (.context .string))] ∧ checked.frame.locals = [] ∧
      handedDeclaration.outline (Scope.root .string).naming = [.simple [.unanswered]] ∧
      checked.outline = [.simple []] :=
  ⟨_, rfl, rfl, rfl, rfl, rfl⟩

end TemplateScript
