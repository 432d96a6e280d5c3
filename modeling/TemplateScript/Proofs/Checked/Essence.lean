import TemplateScript.Proofs.Checked.Inversion
import TemplateScript.Proofs.Outcome
import TemplateScript.Script.Emit

/-!
What of a tree the checker looks at.

The essence of a tree has no offsets, no source text and no comments, and an else arm wherever one
may stand. The checker goes through a tree as it goes through its essence: it accepts both with the
same template or refuses both for the same reason, and only the place that it reports is lost. So
trees of one essence cannot be told apart by checking them.
-/
namespace TemplateScript

def Variable.essence (var : Variable) : Variable :=
  ⟨0, var.ident⟩

mutual

def Arg.essence : Arg → Arg
  | .number _ literal => .number 0 literal
  | .string _ content => .string 0 content
  | .bool _ value => .bool 0 value
  | .dot _ => .dot 0
  | .field _ ident => .field 0 ident
  | .identifier _ ident => .identifier 0 ident
  | .var reading => .var reading.essence
  | .pipe inner => .pipe inner.essence

def Arg.essences : List Arg → List Arg
  | [] => []
  | arg :: rest => arg.essence :: Arg.essences rest

def Command.essence : Command → Command
  | ⟨_, args⟩ => ⟨0, Arg.essences args⟩

def Command.essences : List Command → List Command
  | [] => []
  | command :: rest => command.essence :: Command.essences rest

def Pipe.essence : Pipe → Pipe
  | ⟨_, assigns, targets, commands⟩ =>
      ⟨0, assigns, targets.map Variable.essence, Command.essences commands⟩

end

mutual

/-- Nothing is left of a comment, and a missing else arm becomes an empty one. -/
def Node.essence : Node → List Node
  | .text _ content => [.text 0 content]
  | .comment _ _ => []
  | .action _ pipe => [.action 0 pipe.essence]
  | .branch kind _ pipe body none =>
      [.branch kind 0 pipe.essence body.essence (some ⟨0, []⟩)]
  | .branch kind _ pipe body (some otherwise) =>
      [.branch kind 0 pipe.essence body.essence (some otherwise.essence)]
  | .template _ name none => [.template 0 name none]
  | .template _ name (some pipe) => [.template 0 name (some pipe.essence)]

def Node.essences : List Node → List Node
  | [] => []
  | node :: rest => node.essence ++ Node.essences rest

def Block.essence : Block → Block
  | ⟨_, nodes⟩ => ⟨0, Node.essences nodes⟩

end

def Tree.essence (tree : Tree) : Tree :=
  ⟨tree.name, "", tree.root.essence⟩

@[simp] theorem assigns_essence (pipe : Pipe) : pipe.essence.assigns = pipe.assigns := by
  cases pipe
  rfl

@[simp] theorem targets_essence (pipe : Pipe) :
    pipe.essence.targets = pipe.targets.map Variable.essence := by
  cases pipe
  rfl

/-- Two checks that succeed alike or fail for the same reason, each at a place of its own. -/
abbrev SameReason {α : Type} (left right : Except CheckError α) : Prop :=
  SameOutcome (fun cause other => cause.kind = other.kind) Eq left right

/-- A failure keeps its reason wherever it is located. -/
theorem located_same_reason {α : Type} (outcome : Except TypeError α) (pos other : Offset)
    (render otherRender : Unit → String) :
    SameReason (located pos render outcome) (located other otherRender outcome) :=
  (SameOutcome.refl (fun _ => rfl) outcome).located fun _ _ same => same

theorem SameOutcome.bind_same {α β : Type} {left right : Except CheckError α}
    {next other : α → Except CheckError β} (first : SameReason left right)
    (step : ∀ value, SameReason (next value) (other value)) :
    SameReason (left >>= next) (right >>= other) := by
  apply first.bind
  intro value partner same
  subst same
  exact step value

theorem SameOutcome.accepts_iff {α : Type} {left right : Except CheckError α}
    (both : SameReason left right) (value : α) : left = .ok value ↔ right = .ok value := by
  cases both with
  | ok same => rw [same]
  | error same => simp

theorem SameOutcome.refuses_iff {α : Type} {left right : Except CheckError α}
    (both : SameReason left right) (kind : TypeError) :
    (∃ pos context, left = .error ⟨kind, pos, context⟩) ↔
      ∃ pos context, right = .error ⟨kind, pos, context⟩ := by
  cases both with
  | ok same => simp
  | @error cause other same =>
      obtain ⟨reason, pos, context⟩ := cause
      obtain ⟨otherReason, otherPos, otherContext⟩ := other
      simp_all

mutual

theorem render_arg_essence : (arg : Arg) → arg.essence.render = arg.render
  | .number pos literal => rfl
  | .string pos content => rfl
  | .bool pos true => rfl
  | .bool pos false => rfl
  | .dot pos => rfl
  | .field pos ident => rfl
  | .identifier pos ident => rfl
  | .var reading => rfl
  | .pipe inner => by
      simp only [Arg.essence, Arg.render, render_pipe_essence inner]

theorem render_args_essence : (args : List Arg) →
    Arg.renderAll (Arg.essences args) = Arg.renderAll args
  | [] => rfl
  | arg :: rest => by
      simp only [Arg.essences, Arg.renderAll, render_arg_essence arg, render_args_essence rest]

theorem render_commands_essence : (commands : List Command) →
    Command.renderAll (Command.essences commands) = Command.renderAll commands
  | [] => rfl
  | ⟨pos, args⟩ :: rest => by
      simp only [Command.essences, Command.essence, Command.renderAll, Command.render,
        render_args_essence args, render_commands_essence rest]

theorem render_pipe_essence : (pipe : Pipe) → pipe.essence.render = pipe.render
  | ⟨pos, assigns, targets, commands⟩ => by
      have names : (targets.map Variable.essence).map Variable.render =
          targets.map Variable.render := by
        simp [Variable.essence, Variable.render]
      simp only [Pipe.essence, Pipe.render, renderTargets, List.isEmpty_map, names,
        render_commands_essence commands]

end

theorem check_head_essence {scope : Scope} (head : Arg) (args : List Expr)
    {value other : Unit → Except CheckError Expr} (same : SameReason (value ()) (other ())) :
    SameReason (checkHead scope head.essence args value) (checkHead scope head args other) := by
  have text := render_arg_essence head
  cases head with
  | identifier pos ident | field pos ident | var reading =>
      simp only [Arg.essence, checkHead]
      exact located_same_reason _ _ _ _ _
  | _ =>
      simp only [Arg.essence, checkHead] at text ⊢
      apply same.bind_same
      intro found
      split
      · exact .ok rfl
      · exact .error (by simp only [text])

mutual

theorem check_arg_essence {scope : Scope} : (arg : Arg) →
    SameReason (checkArg scope arg.essence) (checkArg scope arg)
  | .string pos content => .ok rfl
  | .bool pos value => .ok rfl
  | .dot pos => .ok rfl
  | .number pos name | .field pos name | .identifier pos name => by
      simp only [Arg.essence, checkArg]
      exact located_same_reason _ _ _ _ _
  | .var reading => by
      simp only [Arg.essence, checkArg]
      exact located_same_reason _ _ _ _ _
  | .pipe inner => by
      simp only [Arg.essence, checkArg, targets_essence, List.isEmpty_map]
      split
      · exact check_pipe_essence inner
      · exact .error rfl

theorem check_args_essence {scope : Scope} : (args : List Arg) →
    SameReason (checkArgs scope (Arg.essences args)) (checkArgs scope args)
  | [] => .ok rfl
  | arg :: rest => by
      simp only [Arg.essences, checkArgs]
      apply (check_arg_essence arg).bind_same
      intro found
      apply (check_args_essence rest).bind_same
      intro others
      exact .ok rfl

/-- The whole pipeline is only needed to write it back. -/
theorem check_commands_essence {scope : Scope} {whole other : Pipe} : (commands : List Command) →
    (piped : Option Expr) →
    SameReason (checkCommands scope whole piped (Command.essences commands))
      (checkCommands scope other piped commands)
  | [], piped => .ok rfl
  | ⟨pos, []⟩ :: rest, piped => .error rfl
  | ⟨pos, head :: args⟩ :: rest, piped => by
      have heads : SameReason (checkArg scope head.essence) (checkArg scope head) :=
        check_arg_essence head
      simp only [Command.essences, Command.essence, Arg.essences, checkCommands, checkCommand]
      apply SameOutcome.bind_same
      · apply (check_args_essence args).bind_same
        intro found
        exact check_head_essence head (found ++ piped.toList) heads
      · intro found
        exact check_commands_essence rest (some found)

theorem check_pipe_essence {scope : Scope} : (pipe : Pipe) →
    SameReason (checkPipe scope pipe.essence) (checkPipe scope pipe)
  | ⟨pos, assigns, targets, commands⟩ => by
      simp only [Pipe.essence, checkPipe]
      apply (check_commands_essence commands none).bind_same
      intro last
      cases last with
      | none => exact .error rfl
      | some found => exact .ok rfl

end

theorem target_name_essence (target : Variable) (render other : Unit → String) :
    SameReason (targetName render target.essence) (targetName other target) := by
  unfold targetName
  simp only [Variable.essence]
  split
  · exact .ok rfl
  · exact .error rfl

theorem target_names_essence (targets : List Variable) (render other : Unit → String) :
    SameReason (targetNames render (targets.map Variable.essence)) (targetNames other targets) := by
  induction targets with
  | nil => exact .ok rfl
  | cons target rest ih =>
      simp only [List.map_cons, targetNames]
      apply (target_name_essence target render other).bind_same
      intro name
      apply ih.bind_same
      intro names
      exact .ok rfl

theorem single_target_essence (pipe : Pipe) (render other : Unit → String) :
    SameReason (singleTarget render pipe.essence) (singleTarget other pipe) := by
  obtain ⟨pos, assigns, targets, commands⟩ := pipe
  cases targets with
  | nil => exact .ok rfl
  | cons target rest =>
      cases rest with
      | nil =>
          apply (target_name_essence target render other).map
          intro name partner same
          rw [same]
      | cons second more => exact .error rfl

theorem check_action_essence (scope : Scope) (pos : Offset) (pipe : Pipe) :
    SameReason (checkAction scope 0 pipe.essence) (checkAction scope pos pipe) := by
  simp only [checkAction, assigns_essence]
  apply (single_target_essence pipe _ _).bind_same
  intro target
  cases target with
  | none =>
      apply (check_pipe_essence pipe).bind_same
      intro value
      exact .ok rfl
  | some name =>
      apply (check_pipe_essence pipe).bind_same
      intro value
      split
      · apply (located_same_reason _ _ _ _ _).bind_same
        intro found
        split
        · exact .ok rfl
        · exact .error rfl
      · exact .ok rfl

theorem open_conditional_essence (scope : Scope) (rebinds : Bool) (pipe : Pipe)
    (render other : Unit → String) :
    SameReason (openConditional scope rebinds pipe.essence render)
      (openConditional scope rebinds pipe other) := by
  simp only [openConditional]
  apply (single_target_essence pipe render other).bind_same
  intro bound
  apply (check_pipe_essence pipe).bind_same
  intro test
  exact .ok rfl

theorem loop_names_same_reason (names : List String) (pos other : Offset)
    (render otherRender : Unit → String) :
    SameReason (loopNames render pos names) (loopNames otherRender other names) := by
  unfold loopNames
  split
  · exact .ok rfl
  · exact .ok rfl
  · exact .ok rfl
  · exact .error rfl

theorem open_loop_essence (scope : Scope) (pos other : Offset) (pipe : Pipe)
    (render otherRender : Unit → String) :
    SameReason (openLoop scope pos pipe.essence render)
      (openLoop scope other pipe otherRender) := by
  simp only [openLoop, targets_essence]
  apply (target_names_essence pipe.targets render otherRender).bind_same
  intro names
  apply (loop_names_same_reason names pos other render otherRender).bind_same
  intro chosen
  apply (check_pipe_essence pipe).bind_same
  intro subject
  apply (located_same_reason _ _ _ _ _).bind_same
  intro element
  exact .ok rfl

theorem open_branch_essence (scope : Scope) (kind : BranchKind) (pos other : Offset) (pipe : Pipe)
    (render otherRender : Unit → String) :
    SameReason (openBranch scope kind pos pipe.essence render)
      (openBranch scope kind other pipe otherRender) := by
  simp only [openBranch, assigns_essence]
  split
  · exact .error rfl
  · cases kind with
    | «if» => exact open_conditional_essence scope false pipe render otherRender
    | «with» => exact open_conditional_essence scope true pipe render otherRender
    | range => exact open_loop_essence scope pos other pipe render otherRender

theorem check_nodes_single (known : KnownTemplates) (scope : Scope) (node : Node) :
    checkNodes known scope [node] = checkNode known scope node := by
  simp only [checkNodes]
  cases checkNode known scope node with
  | error cause => rfl
  | ok found => simp

theorem check_nodes_append (known : KnownTemplates) (scope : Scope) (front rest : List Node) :
    checkNodes known scope (front ++ rest) =
      checkNodes known scope front >>= fun found =>
        checkNodes known found.2 rest >>= fun more => pure (found.1 ++ more.1, more.2) := by
  induction front generalizing scope with
  | nil =>
      simp only [List.nil_append, checkNodes, ok_bind]
      cases checkNodes known scope rest with
      | error cause => rfl
      | ok found => rfl
  | cons node front ih =>
      simp only [List.cons_append, checkNodes, ih]
      cases checkNode known scope node with
      | error cause => rfl
      | ok first =>
          simp only [ok_bind]
          cases checkNodes known first.2 front with
          | error cause => rfl
          | ok second =>
              simp only [ok_bind, pure_eq_ok]
              cases checkNodes known second.2 rest with
              | error cause => rfl
              | ok third => simp

mutual

theorem check_node_essence {known : KnownTemplates} : (node : Node) → (scope : Scope) →
    SameReason (checkNodes known scope node.essence) (checkNode known scope node)
  | .text pos content, scope => .ok rfl
  | .comment pos content, scope => .ok rfl
  | .action pos pipe, scope => by
      rw [Node.essence, check_nodes_single]
      simp only [checkNode]
      apply (check_action_essence scope pos pipe).bind_same
      intro found
      exact .ok rfl
  | .template pos name none, scope => by
      rw [Node.essence, check_nodes_single]
      simp only [checkNode, checkTemplate]
      split
      · exact .ok rfl
      · exact .error rfl
  | .template pos name (some pipe), scope => by
      rw [Node.essence, check_nodes_single]
      simp only [checkNode, checkTemplate]
      split
      · apply SameOutcome.bind_same
        · apply (check_pipe_essence pipe).map
          intro value partner same
          rw [same]
        · intro statement
          exact .ok rfl
      · exact .error rfl
  | .branch kind pos pipe body none, scope => by
      rw [Node.essence, check_nodes_single]
      simp only [checkNode]
      apply (open_branch_essence scope kind 0 pos pipe _ _).bind_same
      intro opened
      apply (check_block_essence body opened.2).bind_same
      intro inner
      -- an arm without nodes leaves the frame of a level that was opened and closed again
      exact .ok rfl
  | .branch kind pos pipe body (some otherwise), scope => by
      rw [Node.essence, check_nodes_single]
      simp only [checkNode]
      apply (open_branch_essence scope kind 0 pos pipe _ _).bind_same
      intro opened
      apply (check_block_essence body opened.2).bind_same
      intro inner
      apply (check_block_essence otherwise scope.child).bind_same
      intro other
      exact .ok rfl

theorem check_nodes_essence {known : KnownTemplates} : (nodes : List Node) → (scope : Scope) →
    SameReason (checkNodes known scope (Node.essences nodes)) (checkNodes known scope nodes)
  | [], scope => .ok rfl
  | node :: rest, scope => by
      rw [Node.essences, check_nodes_append, checkNodes]
      apply (check_node_essence node scope).bind_same
      intro first
      apply (check_nodes_essence rest first.2).bind_same
      intro more
      exact .ok rfl

theorem check_block_essence {known : KnownTemplates} : (block : Block) → (scope : Scope) →
    SameReason (checkBlock known scope block.essence) (checkBlock known scope block)
  | ⟨pos, nodes⟩, scope => by
      simp only [Block.essence, checkBlock]
      apply (check_nodes_essence nodes scope).bind_same
      intro found
      exact .ok rfl

end

theorem check_tree_essence (known : KnownTemplates) (root : Scope) (tree : Tree) :
    SameReason (tree.essence.check known root) (tree.check known root) := by
  simp only [Tree.essence, Tree.check]
  apply (check_block_essence tree.root root.child).bind_same
  intro found
  exact .ok rfl

/-- Trees that differ in nothing but offsets, source text, comments and empty else arms are accepted
with the same template, and so with the same script, or refused for the same reason. -/
theorem check_determined_by_essence {left right : Tree} (same : left.essence = right.essence)
    (known : KnownTemplates) (root : Scope) :
    (∀ checked, left.check known root = .ok checked ↔ right.check known root = .ok checked) ∧
    (∀ script, (left.check known root).map Script.template = .ok script ↔
      (right.check known root).map Script.template = .ok script) ∧
    ∀ kind, (∃ pos context, left.check known root = .error ⟨kind, pos, context⟩) ↔
      ∃ pos context, right.check known root = .error ⟨kind, pos, context⟩ := by
  have first := check_tree_essence known root left
  have second := check_tree_essence known root right
  rw [← same] at second
  have accepted : ∀ checked, left.check known root = .ok checked ↔
      right.check known root = .ok checked := by
    intro checked
    rw [← first.accepts_iff, second.accepts_iff]
  refine ⟨accepted, ?_, ?_⟩
  · intro script
    simp only [map_ok_iff, accepted]
  · intro kind
    rw [← first.refuses_iff, second.refuses_iff]

/-- A list with its source, a note in front of it and nothing but a note for an empty one. -/
def annotatedList : Tree :=
  ⟨"list", braced "/* rows */" ++ braced "range ." ++ braced "." ++ braced "else" ++
      braced "/* none */" ++ braced "end", ⟨0,
    [.comment 2 "/* rows */",
      .branch .range 16 ⟨22, false, [], [⟨22, [.dot 22]⟩]⟩
        ⟨25, [.action 27 ⟨27, false, [], [⟨27, [.dot 27]⟩]⟩]⟩
        (some ⟨38, [.comment 40 "/* none */"]⟩)]⟩⟩

def plainList : Tree :=
  ⟨"list", "", ⟨0,
    [.branch .range 0 ⟨0, false, [], [⟨0, [.dot 0]⟩]⟩
      ⟨0, [.action 0 ⟨0, false, [], [⟨0, [.dot 0]⟩]⟩]⟩ none]⟩⟩

/-- The two lists are accepted alike for texts, and refused alike where there is no array. -/
theorem annotated_list_checked_as_plain :
    (∃ checked, annotatedList.check none (Scope.root (.array .string)) = .ok checked ∧
      plainList.check none (Scope.root (.array .string)) = .ok checked) ∧
    (∃ context, annotatedList.check none (Scope.root .string) =
      .error ⟨.notIterable .string, 16, context⟩) ∧
    ∃ pos context, plainList.check none (Scope.root .string) =
      .error ⟨.notIterable .string, pos, context⟩ := by
  have same : annotatedList.essence = plainList.essence := rfl
  have accepts := (check_determined_by_essence same none (Scope.root (.array .string))).1
  have refuses := (check_determined_by_essence same none (Scope.root .string)).2.2
  have succeeds :
      (annotatedList.check none (Scope.root (.array .string))).toOption.isSome = true := by
    decide +kernel
  obtain ⟨checked, accepted⟩ := ok_of_to_option succeeds
  have refused : annotatedList.check none (Scope.root .string) =
      .error ⟨.notIterable .string, 16, _⟩ := rfl
  refine ⟨⟨checked, accepted, (accepts checked).mp accepted⟩, ⟨_, refused⟩, ?_⟩
  exact (refuses (.notIterable .string)).mp ⟨16, _, refused⟩

end TemplateScript
