import TemplateScript.Checked.Check
import TemplateScript.Shape.Extract
import TemplateScript.Template.Load

/-!
Errors of whole compilations, as users see them: with the template, the line and column, and a
short excerpt of the offending part.
-/
namespace TemplateScript

inductive CompileError
  | check (template : String) (location : String) (context : String) (kind : TypeError)
  | extract (cause : ExtractError)
  | noSuchTemplate (name : String)
  | emptyBundle
  | load (cause : LoadError)
deriving DecidableEq

namespace CompileError

def ofCheck (tree : Tree) (error : CheckError) : CompileError :=
  let location := Location.locate tree.text error.pos
  .check tree.name
    (tree.name ++ ":" ++ toString location.line ++ ":" ++ toString location.column)
    (excerpt error.context) error.kind

def worded (text : String) : String :=
  "tmpljs: " ++ text

/-- The wording; a malformed document has none. -/
def message? : CompileError → Option String
  | .check template location context kind =>
      some (worded (location ++ ": executing " ++ quoted template ++ " at <" ++ context ++ ">: " ++
        kind.message))
  | .extract cause => some (worded cause.message)
  | .noSuchTemplate name => some (worded ("no template named " ++ quoted name ++ " in bundle"))
  | .emptyBundle => some (worded "bundle has no templates")
  | .load cause => cause.message?.map worded

end CompileError

end TemplateScript
