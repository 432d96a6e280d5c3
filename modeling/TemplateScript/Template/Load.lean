import TemplateScript.LoadError
import TemplateScript.Template.Document
import TemplateScript.Template.Render

/-!
Loading trees.

A tree that comes with its source text has its offsets checked against it: those of nodes,
pipelines, targets and arguments, each before what it contains. Blocks and commands are not
checked. The first offset outside the text is reported.
-/
namespace TemplateScript

/-- The name of a tree and the byte length of its source text. -/
structure Extent where
  tree : String
  length : Nat

namespace Extent

/-- One offset; the part that has it is only written back when it lies outside. -/
def check (extent : Extent) (pos : Offset) (render : Unit → String) : Except LoadError Unit :=
  if extent.length < pos.toNat then
    .error (.positionOutOfRange extent.tree (render ()) pos extent.length)
  else .ok ()

def checkTargets (extent : Extent) : List Variable → Except LoadError Unit
  | [] => .ok ()
  | target :: rest => do
      extent.check target.pos fun _ => target.render
      checkTargets extent rest

mutual

def checkArg (extent : Extent) : Arg → Except LoadError Unit
  | .pipe inner => do
      extent.check inner.pos fun _ => (Arg.pipe inner).render
      checkPipe extent inner
  | arg => extent.check arg.pos fun _ => arg.render

def checkArgs (extent : Extent) : List Arg → Except LoadError Unit
  | [] => .ok ()
  | arg :: rest => do
      checkArg extent arg
      checkArgs extent rest

def checkCommand (extent : Extent) : Command → Except LoadError Unit
  | ⟨_, args⟩ => checkArgs extent args

def checkCommands (extent : Extent) : List Command → Except LoadError Unit
  | [] => .ok ()
  | command :: rest => do
      checkCommand extent command
      checkCommands extent rest

def checkPipe (extent : Extent) : Pipe → Except LoadError Unit
  | ⟨pos, assigns, targets, commands⟩ => do
      extent.check pos fun _ => (Pipe.mk pos assigns targets commands).render
      checkTargets extent targets
      checkCommands extent commands

end

mutual

def checkNode (extent : Extent) : Node → Except LoadError Unit
  | .text pos content => extent.check pos fun _ => (Node.text pos content).render
  | .comment pos content => extent.check pos fun _ => (Node.comment pos content).render
  | .action pos pipe => do
      extent.check pos fun _ => (Node.action pos pipe).render
      checkPipe extent pipe
  | .branch kind pos pipe body none => do
      extent.check pos fun _ => (Node.branch kind pos pipe body none).render
      checkPipe extent pipe
      checkBlock extent body
  | .branch kind pos pipe body (some otherwise) => do
      extent.check pos fun _ => (Node.branch kind pos pipe body (some otherwise)).render
      checkPipe extent pipe
      checkBlock extent body
      checkBlock extent otherwise
  | .template pos name none => extent.check pos fun _ => (Node.template pos name none).render
  | .template pos name (some pipe) => do
      extent.check pos fun _ => (Node.template pos name (some pipe)).render
      checkPipe extent pipe

def checkNodes (extent : Extent) : List Node → Except LoadError Unit
  | [] => .ok ()
  | node :: rest => do
      checkNode extent node
      checkNodes extent rest

def checkBlock (extent : Extent) : Block → Except LoadError Unit
  | ⟨_, nodes⟩ => checkNodes extent nodes

end

end Extent

namespace Tree

/-- A tree without source text has no offsets worth checking. -/
def checkPositions (tree : Tree) : Except LoadError Unit :=
  if tree.text.isEmpty then .ok ()
  else Extent.checkBlock ⟨tree.name, tree.text.utf8ByteSize⟩ tree.root

def checked (tree : Tree) : Except LoadError Tree :=
  tree.checkPositions.map fun _ => tree

def accept (json : Json) : Except LoadError Tree := do
  (← acceptDocument ofJson? json).checked

def load (text : String) : Except LoadError Tree := do
  (← loadDocument ofJson? text).checked

end Tree

end TemplateScript
