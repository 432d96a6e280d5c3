import TemplateScript.Json.Fields
import TemplateScript.Template.Basic

/-!
Trees as documents: every field is written, and what a field defaults to may be left out when
reading.

The readers carry the nesting that a value may have. It bounds the recursion, and a value that
nests no deeper never runs out of it.
-/
namespace TemplateScript

open Json

def Offset.toJson (pos : Offset) : Json :=
  .ofNat pos.toNat

def Variable.members (var : Variable) : List (String × Json) :=
  [("pos", Offset.toJson var.pos), ("ident", .array (var.ident.map .string))]

def Variable.toJson (var : Variable) : Json :=
  .object var.members

def pos? : Option Json → Option Offset :=
  defaulted? 0 word?

def names? : Option Json → Option (List String) :=
  required? (list? text?)

def Variable.ofJson? (json : Json) : Option Variable := do
  match ← json.fields? ["pos", "ident"] with
  | [pos, ident] => return ⟨← pos? pos, ← names? ident⟩
  | _ => none

mutual

def Arg.toJson : Arg → Json
  | .number pos literal =>
      .object [("kind", .string "number"), ("pos", Offset.toJson pos), ("text", .string literal)]
  | .string pos content =>
      .object [("kind", .string "string"), ("pos", Offset.toJson pos), ("text", .string content)]
  | .bool pos value =>
      .object [("kind", .string "bool"), ("pos", Offset.toJson pos), ("value", .bool value)]
  | .dot pos => .object [("kind", .string "dot"), ("pos", Offset.toJson pos)]
  | .field pos ident =>
      .object [("kind", .string "field"), ("pos", Offset.toJson pos),
        ("ident", .array (ident.map .string))]
  | .identifier pos ident =>
      .object [("kind", .string "identifier"), ("pos", Offset.toJson pos), ("ident", .string ident)]
  | .var reading => .object (("kind", .string "variable") :: reading.members)
  | .pipe inner => .object (("kind", .string "pipe") :: inner.members)

def Arg.toJsonAll : List Arg → List Json
  | [] => []
  | arg :: rest => arg.toJson :: Arg.toJsonAll rest

def Command.toJson : Command → Json
  | ⟨pos, args⟩ => .object [("pos", Offset.toJson pos), ("args", .array (Arg.toJsonAll args))]

def Command.toJsonAll : List Command → List Json
  | [] => []
  | command :: rest => command.toJson :: Command.toJsonAll rest

def Pipe.members : Pipe → List (String × Json)
  | ⟨pos, assigns, targets, commands⟩ =>
      [("pos", Offset.toJson pos), ("is_assign", .bool assigns),
        ("decl", .array (targets.map Variable.toJson)),
        ("cmds", .array (Command.toJsonAll commands))]

end

def Pipe.toJson (pipe : Pipe) : Json :=
  .object pipe.members

mutual

def Node.toJson : Node → Json
  | .text pos content =>
      .object [("kind", .string "text"), ("pos", Offset.toJson pos), ("text", .string content)]
  | .comment pos content =>
      .object [("kind", .string "comment"), ("pos", Offset.toJson pos), ("text", .string content)]
  | .action pos pipe =>
      .object [("kind", .string "action"), ("pos", Offset.toJson pos), ("pipe", pipe.toJson)]
  | .branch kind pos pipe body otherwise =>
      .object [("kind",
          .string (match kind with | .if => "if" | .with => "with" | .range => "range")),
        ("pos", Offset.toJson pos), ("pipe", pipe.toJson), ("list", body.toJson),
        ("else_list", match otherwise with
          | none => .null
          | some block => block.toJson)]
  | .template pos name pipe =>
      .object [("kind", .string "template"), ("pos", Offset.toJson pos), ("name", .string name),
        ("pipe", .ofOption Pipe.toJson pipe)]

def Node.toJsonAll : List Node → List Json
  | [] => []
  | node :: rest => node.toJson :: Node.toJsonAll rest

def Block.toJson : Block → Json
  | ⟨pos, nodes⟩ => .object [("pos", Offset.toJson pos), ("nodes", .array (Node.toJsonAll nodes))]

end

def Tree.toJson (tree : Tree) : Json :=
  .object [("name", .string tree.name), ("text", .string tree.text), ("root", tree.root.toJson)]

inductive Arg.Kind
  | number | string | bool | dot | field | identifier | var | pipe

def Arg.kinds : List (String × Arg.Kind) :=
  [("number", .number), ("string", .string), ("bool", .bool), ("dot", .dot), ("field", .field),
    ("identifier", .identifier), ("variable", .var), ("pipe", .pipe)]

def Command.read? (arg? : Json → Option Arg) (json : Json) : Option Command := do
  match ← json.fields? ["pos", "args"] with
  | [pos, args] => return ⟨← pos? pos, ← required? (list? arg?) args⟩
  | _ => none

def Pipe.read? (arg? : Json → Option Arg) (json : Json) : Option Pipe := do
  match ← json.fields? ["pos", "is_assign", "decl", "cmds"] with
  | [pos, assigns, targets, commands] =>
      return ⟨← pos? pos, ← defaulted? false bool? assigns,
        ← defaulted? [] (list? Variable.ofJson?) targets,
        ← required? (list? (Command.read? arg?)) commands⟩
  | _ => none

/-- Reads an argument that nests at most this deep. Arguments always stand within a node, so their
tags may be numbered. -/
def Arg.read? : Nat → Json → Option Arg
  | 0, _ => none
  | nesting + 1, json => do
      let (kind, content) ← json.tagged? "kind" Arg.kinds true
      match kind with
      | .number =>
          match ← content.fields? ["pos", "text"] with
          | [pos, text] => return .number (← pos? pos) (← required? text? text)
          | _ => none
      | .string =>
          match ← content.fields? ["pos", "text"] with
          | [pos, text] => return .string (← pos? pos) (← required? text? text)
          | _ => none
      | .bool =>
          match ← content.fields? ["pos", "value"] with
          | [pos, value] => return .bool (← pos? pos) (← required? bool? value)
          | _ => none
      | .dot =>
          match ← content.fields? ["pos"] with
          | [pos] => return .dot (← pos? pos)
          | _ => none
      | .field =>
          match ← content.fields? ["pos", "ident"] with
          | [pos, ident] => return .field (← pos? pos) (← names? ident)
          | _ => none
      | .identifier =>
          match ← content.fields? ["pos", "ident"] with
          | [pos, ident] => return .identifier (← pos? pos) (← required? text? ident)
          | _ => none
      | .var => return .var (← Variable.ofJson? content)
      | .pipe => return .pipe (← Pipe.read? (Arg.read? nesting) content)

inductive Node.Kind
  | text | comment | action | branch (kind : BranchKind) | template

def Node.kinds : List (String × Node.Kind) :=
  [("text", .text), ("comment", .comment), ("action", .action), ("if", .branch .if),
    ("with", .branch .with), ("range", .branch .range), ("template", .template)]

def Block.empty : Block := ⟨0, []⟩

def Block.read? (node? : Json → Option Node) (json : Json) : Option Block := do
  match ← json.fields? ["pos", "nodes"] with
  | [pos, nodes] => return ⟨← pos? pos, ← defaulted? [] (list? node?) nodes⟩
  | _ => none

/-- Reads a node that nests at most this deep. Nodes in a node may have numbered tags. -/
def Node.read? : Nat → Bool → Json → Option Node
  | 0, _, _ => none
  | nesting + 1, nested, json => do
      let (kind, content) ← json.tagged? "kind" Node.kinds nested
      match kind with
      | .text =>
          match ← content.fields? ["pos", "text"] with
          | [pos, written] => return .text (← pos? pos) (← required? text? written)
          | _ => none
      | .comment =>
          match ← content.fields? ["pos", "text"] with
          | [pos, written] => return .comment (← pos? pos) (← required? text? written)
          | _ => none
      | .action =>
          match ← content.fields? ["pos", "pipe"] with
          | [pos, pipe] =>
              return .action (← pos? pos) (← required? (Pipe.read? (Arg.read? nesting)) pipe)
          | _ => none
      | .branch kind =>
          match ← content.fields? ["pos", "pipe", "list", "else_list"] with
          | [pos, pipe, body, otherwise] =>
              return .branch kind (← pos? pos) (← required? (Pipe.read? (Arg.read? nesting)) pipe)
                (← defaulted? Block.empty (Block.read? (Node.read? nesting true)) body)
                (← nullable? (Block.read? (Node.read? nesting true)) otherwise)
          | _ => none
      | .template =>
          match ← content.fields? ["pos", "name", "pipe"] with
          | [pos, name, pipe] =>
              return .template (← pos? pos) (← required? text? name)
                (← nullable? (Pipe.read? (Arg.read? nesting)) pipe)
          | _ => none

/-- Takes in a node as a whole where it may nest this deep. -/
def Node.within? (nesting : Nat) (json : Json) : Option Node :=
  if json.sound nesting then Node.read? nesting false json else none

/-- Reads the document of a tree. Its nodes lie three levels below it: in the tree, the block and
the list of nodes. Offsets are not looked at. -/
def Tree.ofJson? (json : Json) : Option Tree := do
  match ← json.fields? ["name", "text", "root"] with
  | [name, text, root] =>
      return ⟨← required? text? name, ← defaulted? "" text? text,
        ← required? (Block.read? (Node.within? (nestingLimit - 3))) root⟩
  | _ => none

end TemplateScript
