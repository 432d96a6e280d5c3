import TemplateScript.Template.Basic
import TemplateScript.Text.Quoted

/-!
Trees written back in template syntax, for messages.
-/
namespace TemplateScript

def Variable.render (var : Variable) : String :=
  ".".intercalate var.ident

/-- The targets of a pipeline and the sign that follows them. -/
def renderTargets (assigns : Bool) (targets : List Variable) : String :=
  if targets.isEmpty then ""
  else ", ".intercalate (targets.map Variable.render) ++ if assigns then " = " else " := "

mutual

def Arg.render : Arg → String
  | .number _ literal => literal
  | .string _ content => quoted content
  | .bool _ true => "true"
  | .bool _ false => "false"
  | .dot _ => "."
  | .field _ ident => String.join (ident.map ("." ++ ·))
  | .identifier _ ident => ident
  | .var reading => reading.render
  | .pipe inner => "(" ++ inner.render ++ ")"

def Arg.renderAll : List Arg → List String
  | [] => []
  | arg :: rest => arg.render :: Arg.renderAll rest

def Command.render : Command → String
  | ⟨_, args⟩ => " ".intercalate (Arg.renderAll args)

def Command.renderAll : List Command → List String
  | [] => []
  | command :: rest => command.render :: Command.renderAll rest

def Pipe.render : Pipe → String
  | ⟨_, assigns, targets, commands⟩ =>
      renderTargets assigns targets ++ " | ".intercalate (Command.renderAll commands)

end

def BranchKind.keyword : BranchKind → String
  | .if => "if"
  | .with => "with"
  | .range => "range"

def braced (action : String) : String :=
  "\x7b\x7b" ++ action ++ "\x7d\x7d"

mutual

def Node.render : Node → String
  | .text _ content => content
  | .comment _ content => braced content
  | .action _ pipe => braced pipe.render
  | .branch kind _ pipe body none =>
      braced (kind.keyword ++ " " ++ pipe.render) ++ body.render ++ braced "end"
  | .branch kind _ pipe body (some otherwise) =>
      braced (kind.keyword ++ " " ++ pipe.render) ++ body.render ++
        braced "else" ++ otherwise.render ++ braced "end"
  | .template _ name none => braced ("template " ++ quoted name)
  | .template _ name (some pipe) => braced ("template " ++ quoted name ++ " " ++ pipe.render)

def Node.renderAll : List Node → String
  | [] => ""
  | node :: rest => node.render ++ Node.renderAll rest

def Block.render : Block → String
  | ⟨_, nodes⟩ => Node.renderAll nodes

end

end TemplateScript
