import TemplateScript.Proofs.Checked.Inversion
import TemplateScript.Template.Load

/-!
The parts of a tree that have their offsets checked.

They are listed in the order in which they stand: a node before its pipeline, a pipeline before its
targets and arguments, an argument in parentheses before the pipeline in it, the body of a block
before its other arm. Checking the offsets of a tree is going through this list, so that they are
accepted exactly when every part of it lies in the text, and otherwise the first part that does not
is reported. Blocks and commands are no parts.
-/
namespace TemplateScript

/-- The offset of a part, and the part written back. -/
structure Part where
  pos : Offset
  rendered : String

def Variable.part (var : Variable) : Part :=
  ⟨var.pos, var.render⟩

def Arg.part (arg : Arg) : Part :=
  ⟨arg.pos, arg.render⟩

def Pipe.part (pipe : Pipe) : Part :=
  ⟨pipe.pos, pipe.render⟩

def Node.part (node : Node) : Part :=
  ⟨node.pos, node.render⟩

mutual

def Arg.parts : Arg → List Part
  | .pipe inner => (Arg.pipe inner).part :: inner.parts
  | arg => [arg.part]

def Arg.partsAll : List Arg → List Part
  | [] => []
  | arg :: rest => arg.parts ++ Arg.partsAll rest

def Command.parts : Command → List Part
  | ⟨_, args⟩ => Arg.partsAll args

def Command.partsAll : List Command → List Part
  | [] => []
  | command :: rest => command.parts ++ Command.partsAll rest

def Pipe.parts : Pipe → List Part
  | ⟨pos, assigns, targets, commands⟩ =>
      Pipe.part ⟨pos, assigns, targets, commands⟩ ::
        (targets.map Variable.part ++ Command.partsAll commands)

end

mutual

def Node.parts : Node → List Part
  | .text pos content => [(Node.text pos content).part]
  | .comment pos content => [(Node.comment pos content).part]
  | .action pos pipe => (Node.action pos pipe).part :: pipe.parts
  | .branch kind pos pipe body none =>
      (Node.branch kind pos pipe body none).part :: (pipe.parts ++ body.parts)
  | .branch kind pos pipe body (some otherwise) =>
      (Node.branch kind pos pipe body (some otherwise)).part ::
        (pipe.parts ++ (body.parts ++ otherwise.parts))
  | .template pos name none => [(Node.template pos name none).part]
  | .template pos name (some pipe) => (Node.template pos name (some pipe)).part :: pipe.parts

def Node.partsAll : List Node → List Part
  | [] => []
  | node :: rest => node.parts ++ Node.partsAll rest

def Block.parts : Block → List Part
  | ⟨_, nodes⟩ => Node.partsAll nodes

end

def Tree.parts (tree : Tree) : List Part :=
  tree.root.parts

theorem arg_part_mem (arg : Arg) : arg.part ∈ arg.parts := by
  cases arg <;> simp [Arg.parts]

theorem pipe_part_mem (pipe : Pipe) : pipe.part ∈ pipe.parts := by
  obtain ⟨pos, assigns, targets, commands⟩ := pipe
  simp [Pipe.parts]

theorem target_part_mem {pipe : Pipe} {target : Variable} (member : target ∈ pipe.targets) :
    target.part ∈ pipe.parts := by
  obtain ⟨pos, assigns, targets, commands⟩ := pipe
  simp only [Pipe.parts, List.mem_cons, List.mem_append, List.mem_map]
  exact .inr (.inl ⟨target, member, rfl⟩)

theorem node_part_mem (node : Node) : node.part ∈ node.parts := by
  cases node with
  | text pos content | comment pos content | action pos pipe => simp [Node.parts]
  | branch kind pos pipe body otherwise => cases otherwise <;> simp [Node.parts]
  | template pos name pipe => cases pipe <;> simp [Node.parts]

namespace Extent

/-- Goes through parts up to the first one that lies outside of the text. -/
def checkParts (extent : Extent) : List Part → Except LoadError Unit
  | [] => .ok ()
  | part :: rest => do
      extent.check part.pos fun _ => part.rendered
      checkParts extent rest

theorem check_parts_append (extent : Extent) (front rest : List Part) :
    extent.checkParts (front ++ rest) =
      extent.checkParts front >>= fun _ => extent.checkParts rest := by
  induction front with
  | nil => rfl
  | cons part front ih =>
      simp only [List.cons_append, checkParts, ih]
      cases extent.check part.pos fun _ => part.rendered with
      | error cause => rfl
      | ok value => rfl

theorem check_ok_iff {extent : Extent} {pos : Offset} {render : Unit → String} {value : Unit} :
    extent.check pos render = .ok value ↔ pos.toNat ≤ extent.length := by
  unfold check
  split
  · next outside => simp [outside]
  · next inside => simp [Nat.le_of_not_lt inside]

theorem check_parts_ok_iff {extent : Extent} {parts : List Part} :
    extent.checkParts parts = .ok () ↔ ∀ part ∈ parts, part.pos.toNat ≤ extent.length := by
  induction parts with
  | nil => simp [checkParts]
  | cons part rest ih =>
      simp only [checkParts, bind_ok_iff, check_ok_iff, ih, List.mem_cons, forall_eq_or_imp]
      exact exists_const Unit

theorem check_single_part (extent : Extent) (part : Part) :
    extent.checkParts [part] = extent.check part.pos fun _ => part.rendered := by
  simp only [checkParts]
  cases extent.check part.pos fun _ => part.rendered with
  | error cause => rfl
  | ok value => rfl

theorem check_targets_parts (extent : Extent) (targets : List Variable) :
    extent.checkTargets targets = extent.checkParts (targets.map Variable.part) := by
  induction targets with
  | nil => rfl
  | cons target rest ih => simp only [checkTargets, List.map_cons, checkParts, ih, Variable.part]

mutual

theorem check_arg_parts (extent : Extent) : (arg : Arg) →
    extent.checkArg arg = extent.checkParts arg.parts
  | .pipe inner => by
      simp only [checkArg, Arg.parts, checkParts, check_pipe_parts extent inner]
      rfl
  | .number pos text | .string pos text | .bool pos text | .field pos text
  | .identifier pos text => by
      simp only [checkArg, Arg.parts, check_single_part]
      rfl
  | .dot pos => by
      simp only [checkArg, Arg.parts, check_single_part]
      rfl
  | .var reading => by
      simp only [checkArg, Arg.parts, check_single_part]
      rfl

theorem check_args_parts (extent : Extent) : (args : List Arg) →
    extent.checkArgs args = extent.checkParts (Arg.partsAll args)
  | [] => rfl
  | arg :: rest => by
      simp only [checkArgs, Arg.partsAll, check_parts_append, check_arg_parts extent arg,
        check_args_parts extent rest]

theorem check_commands_parts (extent : Extent) : (commands : List Command) →
    extent.checkCommands commands = extent.checkParts (Command.partsAll commands)
  | [] => rfl
  | ⟨pos, args⟩ :: rest => by
      simp only [checkCommands, checkCommand, Command.partsAll, Command.parts, check_parts_append,
        check_args_parts extent args, check_commands_parts extent rest]

theorem check_pipe_parts (extent : Extent) : (pipe : Pipe) →
    extent.checkPipe pipe = extent.checkParts pipe.parts
  | ⟨pos, assigns, targets, commands⟩ => by
      simp only [checkPipe, Pipe.parts, checkParts, check_parts_append, check_targets_parts,
        check_commands_parts extent commands]
      rfl

end

mutual

theorem check_node_parts (extent : Extent) : (node : Node) →
    extent.checkNode node = extent.checkParts node.parts
  | .text pos content | .comment pos content => by
      simp only [checkNode, Node.parts, check_single_part]
      rfl
  | .action pos pipe => by
      simp only [checkNode, Node.parts, checkParts, check_pipe_parts]
      rfl
  | .template pos name none => by
      simp only [checkNode, Node.parts, check_single_part]
      rfl
  | .template pos name (some pipe) => by
      simp only [checkNode, Node.parts, checkParts, check_pipe_parts]
      rfl
  | .branch kind pos pipe body none => by
      simp only [checkNode, Node.parts, checkParts, check_parts_append, check_pipe_parts,
        check_block_parts extent body]
      rfl
  | .branch kind pos pipe body (some otherwise) => by
      simp only [checkNode, Node.parts, checkParts, check_parts_append, check_pipe_parts,
        check_block_parts extent body, check_block_parts extent otherwise]
      rfl

theorem check_nodes_parts (extent : Extent) : (nodes : List Node) →
    extent.checkNodes nodes = extent.checkParts (Node.partsAll nodes)
  | [] => rfl
  | node :: rest => by
      simp only [checkNodes, Node.partsAll, check_parts_append, check_node_parts extent node,
        check_nodes_parts extent rest]

theorem check_block_parts (extent : Extent) : (block : Block) →
    extent.checkBlock block = extent.checkParts block.parts
  | ⟨_, nodes⟩ => check_nodes_parts extent nodes

end

theorem check_parts_first {extent : Extent} {front rest : List Part} {part : Part}
    (inside : ∀ earlier ∈ front, earlier.pos.toNat ≤ extent.length)
    (outside : extent.length < part.pos.toNat) :
    extent.checkParts (front ++ part :: rest) =
      .error (.positionOutOfRange extent.tree part.rendered part.pos extent.length) := by
  rw [check_parts_append, check_parts_ok_iff.mpr inside, ok_bind, checkParts, check,
    if_pos outside]
  rfl

end Extent

theorem check_positions_parts {tree : Tree} (sourced : tree.text ≠ "") :
    tree.checkPositions =
      Extent.checkParts ⟨tree.name, tree.text.utf8ByteSize⟩ tree.parts := by
  rw [Tree.checkPositions, if_neg (by simpa using sourced), Extent.check_block_parts]
  rfl

/-- The offsets of a tree with a source are accepted exactly when all its parts lie in it. -/
theorem check_positions_ok_iff {tree : Tree} (sourced : tree.text ≠ "") :
    tree.checkPositions = .ok () ↔
      ∀ part ∈ tree.parts, part.pos.toNat ≤ tree.text.utf8ByteSize := by
  rw [check_positions_parts sourced, Extent.check_parts_ok_iff]

/-- The first part that does not lie in the source is reported, whatever comes after it. -/
theorem check_positions_first {tree : Tree} (sourced : tree.text ≠ "") {front rest : List Part}
    {part : Part} (split : tree.parts = front ++ part :: rest)
    (inside : ∀ earlier ∈ front, earlier.pos.toNat ≤ tree.text.utf8ByteSize)
    (outside : tree.text.utf8ByteSize < part.pos.toNat) :
    tree.checkPositions =
      .error (.positionOutOfRange tree.name part.rendered part.pos tree.text.utf8ByteSize) := by
  rw [check_positions_parts sourced, split]
  exact Extent.check_parts_first inside outside

/-- All parts lie in a text, or one of them is the first that does not. -/
theorem inside_or_first_outside (length : Nat) (parts : List Part) :
    (∀ part ∈ parts, part.pos.toNat ≤ length) ∨
      ∃ front part rest, parts = front ++ part :: rest ∧
        (∀ earlier ∈ front, earlier.pos.toNat ≤ length) ∧ length < part.pos.toNat := by
  cases found : parts.find? fun part => length < part.pos.toNat with
  | none =>
      left
      intro part member
      simpa using List.find?_eq_none.mp found part member
  | some part =>
      obtain ⟨outside, front, rest, rfl, inside⟩ := List.find?_eq_some_iff_append.mp found
      right
      exact ⟨front, part, rest, rfl, by simpa using inside, by simpa using outside⟩

/-- The offsets of a tree are accepted exactly when it has no text or all its parts lie in it, and
otherwise the first part that does not is reported, as it is written back. -/
theorem first_part_outside_reported (tree : Tree) :
    (tree.checkPositions = .ok () ↔
      tree.text = "" ∨ ∀ part ∈ tree.parts, part.pos.toNat ≤ tree.text.utf8ByteSize) ∧
    ∀ cause, tree.checkPositions = .error cause ↔
      tree.text ≠ "" ∧ ∃ front part rest, tree.parts = front ++ part :: rest ∧
        (∀ earlier ∈ front, earlier.pos.toNat ≤ tree.text.utf8ByteSize) ∧
        tree.text.utf8ByteSize < part.pos.toNat ∧
        cause = .positionOutOfRange tree.name part.rendered part.pos tree.text.utf8ByteSize := by
  by_cases empty : tree.text = ""
  · have accepted : tree.checkPositions = .ok () := by simp [Tree.checkPositions, empty]
    simp [accepted, empty]
  have accepts := check_positions_ok_iff empty
  refine ⟨by simp [accepts, empty], fun cause => ⟨fun failed => ?_, fun given => ?_⟩⟩
  · rcases inside_or_first_outside tree.text.utf8ByteSize tree.parts with
      inside | ⟨front, part, rest, split, inside, outside⟩
    · rw [accepts.mpr inside] at failed
      cases failed
    · rw [check_positions_first empty split inside outside] at failed
      exact ⟨empty, front, part, rest, split, inside, outside, (Except.error.inj failed).symm⟩
  · rcases given with ⟨_, front, part, rest, split, inside, outside, rfl⟩
    exact check_positions_first empty split inside outside

/-- The dot in the parentheses comes before the dot behind them; the command lies outside too, but
it is no part. -/
example :
    Tree.checkPositions ⟨"page", "abc", ⟨0, [.action 1 ⟨1, false, [],
      [⟨9, [.pipe ⟨2, false, [], [⟨2, [.dot 7]⟩]⟩, .dot 8]⟩]⟩]⟩⟩ =
        .error (.positionOutOfRange "page" "." 7 3) := rfl

end TemplateScript
