import TemplateScript.Text.Location

/-!
Parsed templates.

A template arrives as a tree whose parts carry their byte offsets into the source text, so that
messages can point back at it. Arguments, commands and pipelines refer to each other, because an
argument may be a pipeline in parentheses; nodes and blocks do, because a branch holds blocks.
-/
namespace TemplateScript

/-- A variable with the fields read from it. The first name includes the dollar sign. -/
structure Variable where
  pos : Offset
  ident : List String
deriving DecidableEq

mutual

inductive Arg
  | number (pos : Offset) (literal : String)
  | string (pos : Offset) (content : String)
  | bool (pos : Offset) (value : Bool)
  | dot (pos : Offset)
  /-- Fields read one after another, starting at the dot. -/
  | field (pos : Offset) (ident : List String)
  /-- The name of a function. -/
  | identifier (pos : Offset) (ident : String)
  | var (reading : Variable)
  /-- A pipeline in parentheses. -/
  | pipe (inner : Pipe)

structure Command where
  pos : Offset
  args : List Arg

structure Pipe where
  pos : Offset
  /-- The targets are assigned rather than declared. -/
  assigns : Bool
  targets : List Variable
  commands : List Command

end

inductive BranchKind
  | «if»
  | «with»
  | range
deriving DecidableEq

mutual

inductive Node
  | text (pos : Offset) (content : String)
  | comment (pos : Offset) (content : String)
  | action (pos : Offset) (pipe : Pipe)
  | branch (kind : BranchKind) (pos : Offset) (pipe : Pipe) (body : Block)
      (otherwise : Option Block)
  /-- Renders the named template here. -/
  | template (pos : Offset) (name : String) (pipe : Option Pipe)

structure Block where
  pos : Offset
  nodes : List Node

end

structure Tree where
  name : String
  /-- The source that the offsets refer to. -/
  text : String
  root : Block

def Node.pos : Node → Offset
  | .text pos _ | .comment pos _ | .action pos _ | .branch _ pos _ _ _ | .template pos _ _ => pos

def Arg.pos : Arg → Offset
  | .number pos _ | .string pos _ | .bool pos _ | .dot pos | .field pos _ | .identifier pos _ => pos
  | .var reading => reading.pos
  | .pipe inner => inner.pos

end TemplateScript
