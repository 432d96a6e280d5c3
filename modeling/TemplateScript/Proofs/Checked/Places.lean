import TemplateScript.CompileError
import TemplateScript.Proofs.Template.Parts
import TemplateScript.Proofs.Text.Location

/-!
The places that failed checks are reported at.

The checker tags a failure with the offset of a node, a pipeline, a target or an argument, and all
of these are parts whose offsets are checked against the source when the tree is loaded. There is
one exception: a command without arguments is reported at its own offset, and the offsets of
commands are not checked.
-/
namespace TemplateScript

mutual

/-- The offsets of the commands without arguments in parentheses, at any depth. -/
def Arg.bareCommands : Arg → List Offset
  | .pipe inner => inner.bareCommands
  | .number _ _ | .string _ _ | .bool _ _ | .dot _ | .field _ _ | .identifier _ _ | .var _ => []

def Arg.bareCommandsAll : List Arg → List Offset
  | [] => []
  | arg :: rest => arg.bareCommands ++ Arg.bareCommandsAll rest

def Command.bareCommands : Command → List Offset
  | ⟨pos, []⟩ => [pos]
  | ⟨_, head :: rest⟩ => head.bareCommands ++ Arg.bareCommandsAll rest

def Command.bareCommandsAll : List Command → List Offset
  | [] => []
  | command :: rest => command.bareCommands ++ Command.bareCommandsAll rest

def Pipe.bareCommands : Pipe → List Offset
  | ⟨_, _, _, commands⟩ => Command.bareCommandsAll commands

end

mutual

def Node.bareCommands : Node → List Offset
  | .text _ _ | .comment _ _ | .template _ _ none => []
  | .action _ pipe | .template _ _ (some pipe) => pipe.bareCommands
  | .branch _ _ pipe body none => pipe.bareCommands ++ body.bareCommands
  | .branch _ _ pipe body (some otherwise) =>
      pipe.bareCommands ++ (body.bareCommands ++ otherwise.bareCommands)

def Node.bareCommandsAll : List Node → List Offset
  | [] => []
  | node :: rest => node.bareCommands ++ Node.bareCommandsAll rest

def Block.bareCommands : Block → List Offset
  | ⟨_, nodes⟩ => Node.bareCommandsAll nodes

end

def Tree.bareCommands (tree : Tree) : List Offset :=
  tree.root.bareCommands

/-- If the check fails, then at one of the parts, or at one of the offsets for want of arguments. -/
def FailsAt {α : Type} (parts : List Part) (bare : List Offset)
    (outcome : Except CheckError α) : Prop :=
  ∀ error, outcome = .error error →
    (∃ part ∈ parts, part.pos = error.pos) ∨
      (error.kind = .unsupported .emptyCommand ∧ error.pos ∈ bare)

namespace FailsAt

variable {α β : Type} {parts wider : List Part} {bare wideBare : List Offset}
  {outcome : Except CheckError α}

theorem ok (value : α) : FailsAt parts bare (.ok value : Except CheckError α) := by
  intro error failed
  cases failed

theorem part {part : Part} (member : part ∈ parts) {kind : TypeError} {pos : Offset}
    {context : String} (here : part.pos = pos) :
    FailsAt parts bare (.error ⟨kind, pos, context⟩ : Except CheckError α) := by
  intro error failed
  cases failed
  exact .inl ⟨part, member, here⟩

theorem located {part : Part} (member : part ∈ parts) {pos : Offset} (here : part.pos = pos)
    (render : Unit → String) (outcome : Except TypeError α) :
    FailsAt parts bare (located pos render outcome) := by
  cases outcome with
  | ok value => exact .ok value
  | error kind => exact .part member here

theorem bind {next : α → Except CheckError β} (first : FailsAt parts bare outcome)
    (step : ∀ value, FailsAt parts bare (next value)) : FailsAt parts bare (outcome >>= next) := by
  intro error failed
  cases outcome with
  | error cause =>
      cases failed
      exact first _ rfl
  | ok value => exact step value error failed

theorem map (first : FailsAt parts bare outcome) (f : α → β) :
    FailsAt parts bare (outcome.map f) := by
  intro error failed
  cases outcome with
  | error cause =>
      cases failed
      exact first _ rfl
  | ok value => cases failed

theorem mono (first : FailsAt parts bare outcome) (inParts : parts ⊆ wider)
    (inBare : bare ⊆ wideBare) : FailsAt wider wideBare outcome := by
  intro error failed
  rcases first error failed with ⟨part, member, here⟩ | ⟨kind, member⟩
  · exact .inl ⟨part, inParts member, here⟩
  · exact .inr ⟨kind, inBare member⟩

theorem inside (first : FailsAt parts bare outcome) (part : Part) :
    FailsAt (part :: parts) bare outcome :=
  first.mono (List.subset_cons_self part parts) (List.Subset.refl bare)

theorem left (first : FailsAt parts bare outcome) :
    FailsAt (parts ++ wider) (bare ++ wideBare) outcome :=
  first.mono (List.subset_append_left _ _) (List.subset_append_left _ _)

theorem right (first : FailsAt wider wideBare outcome) :
    FailsAt (parts ++ wider) (bare ++ wideBare) outcome :=
  first.mono (List.subset_append_right _ _) (List.subset_append_right _ _)

/-- Two checks one after the other fail where one of them does. -/
theorem seq {next : α → Except CheckError β} (first : FailsAt parts bare outcome)
    (step : ∀ value, FailsAt wider wideBare (next value)) :
    FailsAt (parts ++ wider) (bare ++ wideBare) (outcome >>= next) :=
  first.left.bind fun value => (step value).right

end FailsAt

theorem check_head_fails {scope : Scope} {parts : List Part} {bare : List Offset} (head : Arg)
    (args : List Expr) {value : Unit → Except CheckError Expr} (member : head.part ∈ parts)
    (valued : FailsAt parts bare (value ())) :
    FailsAt parts bare (checkHead scope head args value) := by
  cases head with
  | identifier pos ident | field pos ident | var reading =>
      simp only [checkHead]
      exact .located member rfl _ _
  | _ =>
      simp only [checkHead]
      apply valued.bind
      intro found
      split
      · exact .ok found
      · exact .part member rfl

mutual

theorem check_arg_fails {scope : Scope} : (arg : Arg) →
    FailsAt arg.parts arg.bareCommands (checkArg scope arg)
  | .string pos content => .ok _
  | .bool pos value => .ok _
  | .dot pos => .ok _
  | .number pos name | .field pos name | .identifier pos name => by
      simp only [checkArg]
      exact .located (arg_part_mem _) rfl _ _
  | .var reading => by
      simp only [checkArg]
      exact .located (arg_part_mem _) rfl _ _
  | .pipe inner => by
      simp only [checkArg]
      split
      · exact (check_pipe_fails inner).inside _
      · exact .part (arg_part_mem _) rfl

theorem check_args_fail {scope : Scope} : (args : List Arg) →
    FailsAt (Arg.partsAll args) (Arg.bareCommandsAll args) (checkArgs scope args)
  | [] => .ok _
  | arg :: rest => by
      simp only [checkArgs, Arg.partsAll, Arg.bareCommandsAll]
      apply (check_arg_fails arg).seq
      intro found
      apply (check_args_fail rest).bind
      intro others
      exact .ok _

theorem check_command_fails {scope : Scope} {whole : Pipe} {piped : Option Expr} :
    (command : Command) →
    FailsAt command.parts command.bareCommands (checkCommand scope whole piped command)
  | ⟨pos, []⟩ => by
      intro error failed
      cases failed
      exact .inr ⟨rfl, by simp [Command.bareCommands]⟩
  | ⟨pos, head :: rest⟩ => by
      simp only [checkCommand, Command.parts, Arg.partsAll, Command.bareCommands]
      -- the head stands in front of the arguments and is checked after them
      apply (check_args_fail rest).right.bind
      intro args
      apply check_head_fails
      · exact List.mem_append_left _ (arg_part_mem head)
      · exact (check_arg_fails head).left

theorem check_commands_fail {scope : Scope} {whole : Pipe} : (commands : List Command) →
    (piped : Option Expr) →
    FailsAt (Command.partsAll commands) (Command.bareCommandsAll commands)
      (checkCommands scope whole piped commands)
  | [], piped => .ok _
  | command :: rest, piped => by
      simp only [checkCommands, Command.partsAll, Command.bareCommandsAll]
      apply (check_command_fails command).seq
      intro found
      exact check_commands_fail rest (some found)

theorem check_pipe_fails {scope : Scope} : (pipe : Pipe) →
    FailsAt pipe.parts pipe.bareCommands (checkPipe scope pipe)
  | ⟨pos, assigns, targets, commands⟩ => by
      have here := pipe_part_mem ⟨pos, assigns, targets, commands⟩
      simp only [Pipe.parts] at here
      simp only [checkPipe, Pipe.parts, Pipe.bareCommands]
      apply FailsAt.bind
      · apply FailsAt.inside
        apply (check_commands_fail commands none).mono (List.subset_append_right _ _)
        exact List.Subset.refl _
      · intro last
        cases last with
        | none => exact .part here rfl
        | some found => exact .ok found

end

section

variable {parts : List Part} {bare : List Offset} {render : Unit → String}

theorem target_name_fails {target : Variable} (member : target.part ∈ parts) :
    FailsAt parts bare (targetName render target) := by
  unfold targetName
  split
  · exact .ok _
  · exact .part member rfl

theorem target_names_fail {targets : List Variable}
    (members : ∀ target ∈ targets, target.part ∈ parts) :
    FailsAt parts bare (targetNames render targets) := by
  induction targets with
  | nil => exact .ok _
  | cons target rest ih =>
      simp only [targetNames]
      apply (target_name_fails (members target (by simp))).bind
      intro name
      apply (ih fun other member => members other (by simp [member])).bind
      intro names
      exact .ok _

theorem single_target_fails (pipe : Pipe) :
    FailsAt pipe.parts pipe.bareCommands (singleTarget render pipe) := by
  unfold singleTarget
  split
  · exact .ok _
  · next target single =>
      apply (target_name_fails _).map
      exact target_part_mem (by simp [single])
  · exact .part (pipe_part_mem pipe) rfl

end

theorem check_action_fails (scope : Scope) (pos : Offset) (pipe : Pipe) :
    FailsAt (Node.action pos pipe).parts (Node.action pos pipe).bareCommands
      (checkAction scope pos pipe) := by
  have here := node_part_mem (.action pos pipe)
  simp only [Node.parts] at here
  simp only [checkAction, Node.parts, Node.bareCommands]
  apply ((single_target_fails pipe).inside _).bind
  intro target
  cases target with
  | none =>
      apply ((check_pipe_fails pipe).inside _).bind
      intro value
      exact .ok _
  | some name =>
      apply ((check_pipe_fails pipe).inside _).bind
      intro value
      split
      · apply (FailsAt.located here rfl _ _).bind
        intro found
        split
        · exact .ok _
        · exact .part here rfl
      · exact .ok _

section

variable {pos : Offset} {part : Part} {render : Unit → String}

theorem open_conditional_fails (scope : Scope) (rebinds : Bool) (pipe : Pipe) :
    FailsAt pipe.parts pipe.bareCommands (openConditional scope rebinds pipe render) := by
  simp only [openConditional]
  apply (single_target_fails pipe).bind
  intro bound
  apply (check_pipe_fails pipe).bind
  intro test
  exact .ok _

theorem open_loop_fails (here : part.pos = pos) (scope : Scope) (pipe : Pipe) :
    FailsAt (part :: pipe.parts) pipe.bareCommands (openLoop scope pos pipe render) := by
  simp only [openLoop]
  apply FailsAt.bind
  · apply target_names_fail
    intro target member
    exact List.mem_cons_of_mem _ (target_part_mem member)
  · intro names
    apply FailsAt.bind
    · unfold loopNames
      split
      · exact .ok _
      · exact .ok _
      · exact .ok _
      · exact .part List.mem_cons_self here
    · intro chosen
      apply ((check_pipe_fails pipe).inside _).bind
      intro subject
      apply (FailsAt.located List.mem_cons_self here _ _).bind
      intro element
      exact .ok _

/-- What opens a block fails at the block itself or in its pipeline. -/
theorem open_branch_fails (here : part.pos = pos) (scope : Scope) (kind : BranchKind)
    (pipe : Pipe) :
    FailsAt (part :: pipe.parts) pipe.bareCommands (openBranch scope kind pos pipe render) := by
  unfold openBranch
  split
  · exact .part List.mem_cons_self here
  · cases kind with
    | «if» => exact (open_conditional_fails scope false pipe).inside _
    | «with» => exact (open_conditional_fails scope true pipe).inside _
    | range => exact open_loop_fails here scope pipe

end

theorem check_template_fails (known : KnownTemplates) (scope : Scope) (pos : Offset) (name : String)
    (pipe : Option Pipe) :
    FailsAt (Node.template pos name pipe).parts (Node.template pos name pipe).bareCommands
      (checkTemplate known scope pos name pipe) := by
  unfold checkTemplate
  split
  · cases pipe with
    | none => exact .ok _
    | some context => exact ((check_pipe_fails context).inside _).map _
  · exact .part (node_part_mem (.template pos name pipe)) rfl

mutual

theorem check_node_fails {known : KnownTemplates} : (node : Node) → (scope : Scope) →
    FailsAt node.parts node.bareCommands (checkNode known scope node)
  | .text pos content, scope => .ok _
  | .comment pos content, scope => .ok _
  | .action pos pipe, scope => by
      simp only [checkNode]
      apply (check_action_fails scope pos pipe).bind
      intro found
      exact .ok _
  | .template pos name pipe, scope => by
      simp only [checkNode]
      apply (check_template_fails known scope pos name pipe).bind
      intro statement
      exact .ok _
  | .branch kind pos pipe body none, scope => by
      simp only [checkNode, Node.parts, Node.bareCommands, ← List.cons_append]
      apply (open_branch_fails rfl scope kind pipe).seq
      intro opened
      apply (check_block_fails body opened.2).bind
      intro inner
      exact .ok _
  | .branch kind pos pipe body (some otherwise), scope => by
      simp only [checkNode, Node.parts, Node.bareCommands, ← List.cons_append]
      apply (open_branch_fails rfl scope kind pipe).seq
      intro opened
      apply (check_block_fails body opened.2).seq
      intro inner
      apply (check_block_fails otherwise scope.child).bind
      intro other
      exact .ok _

theorem check_nodes_fail {known : KnownTemplates} : (nodes : List Node) → (scope : Scope) →
    FailsAt (Node.partsAll nodes) (Node.bareCommandsAll nodes) (checkNodes known scope nodes)
  | [], scope => .ok _
  | node :: rest, scope => by
      simp only [checkNodes, Node.partsAll, Node.bareCommandsAll]
      apply (check_node_fails node scope).seq
      intro first
      apply (check_nodes_fail rest first.2).bind
      intro more
      exact .ok _

theorem check_block_fails {known : KnownTemplates} : (block : Block) → (scope : Scope) →
    FailsAt block.parts block.bareCommands (checkBlock known scope block)
  | ⟨pos, nodes⟩, scope => by
      simp only [checkBlock]
      apply (check_nodes_fail nodes scope).bind
      intro found
      exact .ok _

end

theorem check_tree_fails (known : KnownTemplates) (root : Scope) (tree : Tree) :
    FailsAt tree.parts tree.bareCommands (tree.check known root) := by
  simp only [Tree.check]
  apply (check_block_fails tree.root root.child).bind
  intro found
  exact .ok _

/-- An offset in the text has as many bytes before it as it says. -/
theorem length_before {text : String} {offset : Offset}
    (inside : offset.toNat ≤ text.utf8ByteSize) :
    (Location.before text offset).length = offset.toNat := by
  rw [Location.length_before_min, Nat.min_eq_left inside]

/-- A tree whose offsets were checked against its source is refused at an offset in the source,
which need not be cut off at its end, unless it is refused for a command without arguments. -/
theorem refused_in_text {known : KnownTemplates} {root : Scope} {tree : Tree} {error : CheckError}
    (sourced : tree.text ≠ "") (verified : tree.checkPositions = .ok ())
    (refused : tree.check known root = .error error) :
    (error.pos.toNat ≤ tree.text.utf8ByteSize ∧
        (Location.before tree.text error.pos).length = error.pos.toNat) ∨
      (error.kind = .unsupported .emptyCommand ∧ error.pos ∈ tree.bareCommands) := by
  have parts := (check_positions_ok_iff sourced).mp verified
  rcases check_tree_fails known root tree error refused with ⟨part, member, here⟩ | bare
  · have inside : error.pos.toNat ≤ tree.text.utf8ByteSize := by
      rw [← here]
      exact parts part member
    exact .inl ⟨inside, length_before inside⟩
  · exact .inr bare

def misspelledGreeting : Tree :=
  ⟨"page", "Hi\n  " ++ braced ".Nope", ⟨0,
    [.text 0 "Hi\n  ", .action 7 ⟨7, false, [], [⟨7, [.field 7 ["Nope"]]⟩]⟩]⟩⟩

theorem misspelled_greeting_refused_in_text :
    ∃ error, misspelledGreeting.check none (Scope.root .string) = .error error ∧
      misspelledGreeting.checkPositions = .ok () ∧
      error.pos.toNat ≤ misspelledGreeting.text.utf8ByteSize ∧
      Location.locate misspelledGreeting.text error.pos = ⟨2, 4⟩ := by
  have refused : misspelledGreeting.check none (Scope.root .string) =
      .error ⟨.noSuchField .string "Nope", 7, ".Nope"⟩ := rfl
  have verified : misspelledGreeting.checkPositions = .ok () := rfl
  rcases refused_in_text (by decide) verified refused with inside | bare
  · exact ⟨_, refused, verified, inside.1, by decide +kernel⟩
  · cases bare.1

/-- A page of one byte with a command that has no arguments and claims to stand behind it. -/
def strayCommand : Tree :=
  ⟨"page", "x", ⟨0, [.action 0 ⟨0, false, [], [⟨9, []⟩]⟩]⟩⟩

/-- The offset of the command is not checked, so it is reported and cut off at the end. -/
theorem stray_command_outside_text :
    strayCommand.checkPositions = .ok () ∧
      strayCommand.check none (Scope.root .string) =
        .error ⟨.unsupported .emptyCommand, 9, ""⟩ ∧
      strayCommand.text.utf8ByteSize < (9 : Offset).toNat ∧
      Location.locate strayCommand.text 9 = Location.locate strayCommand.text 1 := by
  refine ⟨rfl, rfl, ?_, ?_⟩ <;> decide +kernel

end TemplateScript
