import TemplateScript.Proofs.Json.Documents
import TemplateScript.Template.Load

/-!
Trees read back from their documents.

The readers of arguments and nodes get as much nesting as the written value has, which is at least
one level for each of them. So none of them runs out of it.
-/
namespace TemplateScript

open Json

theorem offset_plain (pos : Offset) : (Offset.toJson pos).Plain :=
  ⟨pos.toNat, pos.toNat_lt, rfl⟩

theorem pos_written (pos : Offset) : pos? (some (Offset.toJson pos)) = some pos :=
  word_of_nat pos

theorem names_plain (names : List String) : ItemsPlain (names.map .string) := by
  induction names with
  | nil => trivial
  | cons name rest ih => exact ⟨trivial, ih⟩

theorem names_written (names : List String) :
    names? (some (.array (names.map .string))) = some names :=
  list_written fun _ _ => rfl

theorem Variable.members_plain (var : Variable) : MembersPlain var.members :=
  ⟨offset_plain var.pos, names_plain var.ident, trivial⟩

theorem Variable.read_members (var : Variable) :
    Variable.ofJson? (.object var.members) = some var := by
  simp [Variable.ofJson?, Variable.members, pos_written, names_written]

theorem targets_plain (targets : List Variable) : ItemsPlain (targets.map Variable.toJson) := by
  induction targets with
  | nil => trivial
  | cons target rest ih => exact ⟨target.members_plain, ih⟩

theorem targets_written (targets : List Variable) :
    list? Variable.ofJson? (.array (targets.map Variable.toJson)) = some targets :=
  list_written fun target _ => target.read_members

mutual

theorem Arg.to_json_plain : (arg : Arg) → arg.toJson.Plain
  | .number pos _ | .string pos _ | .bool pos _ | .identifier pos _ =>
      ⟨trivial, offset_plain pos, trivial, trivial⟩
  | .dot pos => ⟨trivial, offset_plain pos, trivial⟩
  | .field pos ident => ⟨trivial, offset_plain pos, names_plain ident, trivial⟩
  | .var reading => ⟨trivial, reading.members_plain⟩
  | .pipe inner => ⟨trivial, inner.members_plain⟩

theorem Arg.to_json_all_plain : (args : List Arg) → ItemsPlain (Arg.toJsonAll args)
  | [] => trivial
  | arg :: rest => ⟨arg.to_json_plain, Arg.to_json_all_plain rest⟩

theorem Command.to_json_all_plain : (commands : List Command) →
    ItemsPlain (Command.toJsonAll commands)
  | [] => trivial
  | ⟨pos, args⟩ :: rest =>
      ⟨⟨offset_plain pos, Arg.to_json_all_plain args, trivial⟩, Command.to_json_all_plain rest⟩

theorem Pipe.members_plain : (pipe : Pipe) → MembersPlain pipe.members
  | ⟨pos, _, targets, commands⟩ =>
      ⟨offset_plain pos, trivial, targets_plain targets, Command.to_json_all_plain commands,
        trivial⟩

end

mutual

theorem Node.to_json_plain : (node : Node) → node.toJson.Plain
  | .text pos _ | .comment pos _ => ⟨trivial, offset_plain pos, trivial, trivial⟩
  | .action pos pipe => ⟨trivial, offset_plain pos, pipe.members_plain, trivial⟩
  | .branch _ pos pipe body none =>
      ⟨trivial, offset_plain pos, pipe.members_plain, body.to_json_plain, trivial, trivial⟩
  | .branch _ pos pipe body (some otherwise) =>
      ⟨trivial, offset_plain pos, pipe.members_plain, body.to_json_plain, otherwise.to_json_plain,
        trivial⟩
  | .template pos _ none => ⟨trivial, offset_plain pos, trivial, trivial, trivial⟩
  | .template pos _ (some pipe) =>
      ⟨trivial, offset_plain pos, trivial, pipe.members_plain, trivial⟩

theorem Node.to_json_all_plain : (nodes : List Node) → ItemsPlain (Node.toJsonAll nodes)
  | [] => trivial
  | node :: rest => ⟨node.to_json_plain, Node.to_json_all_plain rest⟩

theorem Block.to_json_plain : (block : Block) → block.toJson.Plain
  | ⟨pos, nodes⟩ => ⟨offset_plain pos, Node.to_json_all_plain nodes, trivial⟩

end

theorem Tree.to_json_plain (tree : Tree) : tree.toJson.Plain :=
  ⟨trivial, trivial, tree.root.to_json_plain, trivial⟩

mutual

theorem Arg.read_to_json : (arg : Arg) → ∀ nesting, arg.toJson.depth ≤ nesting →
    Arg.read? nesting arg.toJson = some arg
  | .number pos content | .string pos content | .identifier pos content => by
      intro nesting within
      obtain ⟨deeper, rfl, _⟩ := object_within within
      simp [Arg.toJson, Arg.read?, Arg.kinds, List.lookup_cons, pos_written, required?, text?]
  | .bool pos value => by
      intro nesting within
      obtain ⟨deeper, rfl, _⟩ := object_within within
      simp [Arg.toJson, Arg.read?, Arg.kinds, List.lookup_cons, pos_written, required?, bool?]
  | .dot pos => by
      intro nesting within
      obtain ⟨deeper, rfl, _⟩ := object_within within
      simp [Arg.toJson, Arg.read?, Arg.kinds, List.lookup_cons, pos_written]
  | .field pos ident => by
      intro nesting within
      obtain ⟨deeper, rfl, _⟩ := object_within within
      simp [Arg.toJson, Arg.read?, Arg.kinds, List.lookup_cons, pos_written, names_written]
  | .var reading => by
      intro nesting within
      obtain ⟨deeper, rfl, _⟩ := object_within within
      have read := reading.read_members
      simp only [Variable.members] at read
      simp [Arg.toJson, Arg.read?, Arg.kinds, List.lookup_cons, Variable.members, read]
  | .pipe inner => by
      intro nesting within
      obtain ⟨deeper, rfl, inside⟩ := object_within within
      have read := inner.read_members deeper (by simpa [depthOfMembers, depth] using inside)
      obtain ⟨pos, assigns, targets, commands⟩ := inner
      simp only [Pipe.members] at read
      simp [Arg.toJson, Arg.read?, Arg.kinds, List.lookup_cons, Pipe.members, read]

theorem Arg.read_to_json_all : (args : List Arg) → ∀ nesting,
    depthOfItems (Arg.toJsonAll args) ≤ nesting →
    list? (Arg.read? nesting) (.array (Arg.toJsonAll args)) = some args
  | [] => fun _ _ => rfl
  | arg :: rest => by
      intro nesting within
      rw [Arg.toJsonAll, depthOfItems, Nat.max_le] at within
      exact list_cons (arg.read_to_json nesting within.1)
        (Arg.read_to_json_all rest nesting within.2)

theorem Command.read_to_json_all : (commands : List Command) → ∀ nesting,
    depthOfItems (Command.toJsonAll commands) ≤ nesting →
    list? (Command.read? (Arg.read? nesting)) (.array (Command.toJsonAll commands)) = some commands
  | [] => fun _ _ => rfl
  | ⟨pos, args⟩ :: rest => by
      intro nesting within
      rw [Command.toJsonAll, depthOfItems, Nat.max_le] at within
      have inside : depthOfItems (Arg.toJsonAll args) ≤ nesting := by
        have command := within.1
        simp only [Command.toJson, depth, depthOfMembers] at command
        omega
      have read := Arg.read_to_json_all args nesting inside
      have first : Command.read? (Arg.read? nesting) (Command.toJson ⟨pos, args⟩) =
          some ⟨pos, args⟩ := by
        simp [Command.toJson, Command.read?, pos_written, required?, read]
      exact list_cons first (Command.read_to_json_all rest nesting within.2)

theorem Pipe.read_members : (pipe : Pipe) → ∀ nesting, depthOfMembers pipe.members ≤ nesting →
    Pipe.read? (Arg.read? nesting) (.object pipe.members) = some pipe
  | ⟨pos, assigns, targets, commands⟩ => by
      intro nesting within
      have inside : depthOfItems (Command.toJsonAll commands) ≤ nesting := by
        simp only [Pipe.members, depthOfMembers, depth] at within
        omega
      have read := Command.read_to_json_all commands nesting inside
      simp [Pipe.members, Pipe.read?, pos_written, defaulted?, bool?, targets_written, required?,
        read]

end

theorem Block.present (block : Block) : block.toJson ≠ .null := by
  obtain ⟨pos, nodes⟩ := block
  simp [Block.toJson]

mutual

theorem Node.read_to_json : (node : Node) → ∀ nesting nested, node.toJson.depth ≤ nesting →
    Node.read? nesting nested node.toJson = some node
  | .text pos content | .comment pos content => by
      intro nesting nested within
      obtain ⟨deeper, rfl, _⟩ := object_within within
      simp [Node.toJson, Node.read?, Node.kinds, List.lookup_cons, pos_written, required?, text?]
  | .action pos pipe => by
      intro nesting nested within
      obtain ⟨deeper, rfl, inside⟩ := object_within within
      simp only [depthOfMembers, depth, Pipe.toJson] at inside
      have piped := pipe.read_members deeper (by omega)
      simp [Node.toJson, Node.read?, Node.kinds, List.lookup_cons, pos_written, required?,
        Pipe.toJson, piped]
  | .branch kind pos pipe body none => by
      intro nesting nested within
      obtain ⟨deeper, rfl, inside⟩ := object_within within
      simp only [depthOfMembers, depth, Pipe.toJson] at inside
      have piped := pipe.read_members deeper (by omega)
      have block := body.read_to_json deeper (by omega)
      cases kind <;>
        simp [Node.toJson, Node.read?, Node.kinds, List.lookup_cons, pos_written, required?,
          Pipe.toJson, piped, defaulted?, block, nullable?]
  | .branch kind pos pipe body (some otherwise) => by
      intro nesting nested within
      obtain ⟨deeper, rfl, inside⟩ := object_within within
      simp only [depthOfMembers, depth, Pipe.toJson] at inside
      have piped := pipe.read_members deeper (by omega)
      have block := body.read_to_json deeper (by omega)
      have other := nullable_present otherwise.present (otherwise.read_to_json deeper (by omega))
      cases kind <;>
        simp [Node.toJson, Node.read?, Node.kinds, List.lookup_cons, pos_written, required?,
          Pipe.toJson, piped, defaulted?, block, other]
  | .template pos name none => by
      intro nesting nested within
      obtain ⟨deeper, rfl, _⟩ := object_within within
      simp [Node.toJson, Node.read?, Node.kinds, List.lookup_cons, pos_written, required?, text?,
        nullable?, ofOption]
  | .template pos name (some pipe) => by
      intro nesting nested within
      obtain ⟨deeper, rfl, inside⟩ := object_within within
      simp only [depthOfMembers, depth, Pipe.toJson, ofOption] at inside
      have piped := pipe.read_members deeper (by omega)
      simp [Node.toJson, Node.read?, Node.kinds, List.lookup_cons, pos_written, required?, text?,
        nullable?, ofOption, Pipe.toJson, piped]

theorem Node.read_to_json_all : (nodes : List Node) → ∀ nesting,
    depthOfItems (Node.toJsonAll nodes) ≤ nesting →
    list? (Node.read? nesting true) (.array (Node.toJsonAll nodes)) = some nodes
  | [] => fun _ _ => rfl
  | node :: rest => by
      intro nesting within
      rw [Node.toJsonAll, depthOfItems, Nat.max_le] at within
      exact list_cons (node.read_to_json nesting true within.1)
        (Node.read_to_json_all rest nesting within.2)

theorem Block.read_to_json : (block : Block) → ∀ nesting, block.toJson.depth ≤ nesting →
    Block.read? (Node.read? nesting true) block.toJson = some block
  | ⟨pos, nodes⟩ => by
      intro nesting within
      simp only [Block.toJson, depth, depthOfMembers] at within
      have read := Node.read_to_json_all nodes nesting (by omega)
      simp [Block.toJson, Block.read?, pos_written, defaulted?, read]

end

theorem Node.within_to_json {node : Node} {nesting : Nat} (within : node.toJson.depth ≤ nesting) :
    Node.within? nesting node.toJson = some node := by
  rw [Node.within?, if_pos (node.to_json_plain.sound within)]
  exact node.read_to_json nesting false within

theorem Node.within_to_json_all {nodes : List Node} {nesting : Nat}
    (within : depthOfItems (Node.toJsonAll nodes) ≤ nesting) :
    list? (Node.within? nesting) (.array (Node.toJsonAll nodes)) = some nodes := by
  induction nodes with
  | nil => rfl
  | cons node rest ih =>
      rw [Node.toJsonAll, depthOfItems, Nat.max_le] at within
      exact list_cons (Node.within_to_json within.1) (ih within.2)

theorem Tree.read_to_json {tree : Tree} (within : tree.toJson.depth ≤ nestingLimit) :
    Tree.ofJson? tree.toJson = some tree := by
  obtain ⟨name, text, ⟨pos, nodes⟩⟩ := tree
  have inside : depthOfItems (Node.toJsonAll nodes) ≤ nestingLimit - 3 := by
    simp only [Tree.toJson, Block.toJson, depth, depthOfMembers] at within
    omega
  have read := Node.within_to_json_all inside
  have block : Block.read? (Node.within? (nestingLimit - 3)) (Block.toJson ⟨pos, nodes⟩) =
      some ⟨pos, nodes⟩ := by
    simp [Block.toJson, Block.read?, pos_written, defaulted?, read]
  simp [Tree.toJson, Tree.ofJson?, required?, text?, defaulted?, block]

theorem Tree.load_to_json {tree : Tree} (within : tree.toJson.depth ≤ nestingLimit)
    (inText : tree.checkPositions = .ok ()) : Tree.load tree.toJson.render = .ok tree := by
  have loaded := tree.to_json_plain.load (Tree.read_to_json within)
  have checked : tree.checked = .ok tree := by
    rw [Tree.checked, inText]
    rfl
  rw [Tree.load, loaded]
  exact checked

end TemplateScript
