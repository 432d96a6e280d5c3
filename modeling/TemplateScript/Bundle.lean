import TemplateScript.CompileError
import TemplateScript.Options
import TemplateScript.Script.Emit
import TemplateScript.Script.Prelude

/-!
Bundles: sets of templates compiled into one script expression.

The value of the expression is a function of the data and the user's functions that renders the
entry template. It also renders any template by name and lists the names.
-/
namespace TemplateScript

/-- A template of a bundle. Without a shape of its own it is rendered with the root data. -/
structure Bundle.Entry where
  tree : Tree
  shape : Option Shape

structure Bundle where
  options : Options
  entries : List Bundle.Entry

namespace Bundle

def empty (options : Options) : Bundle := ⟨options, []⟩

/-- A template takes the place of an earlier one with its name. -/
def place (entry : Entry) : List Entry → List Entry
  | [] => [entry]
  | first :: rest =>
      if first.tree.name = entry.tree.name then entry :: rest else first :: place entry rest

def add (tree : Tree) (bundle : Bundle) : Bundle :=
  { bundle with entries := place ⟨tree, none⟩ bundle.entries }

/-- Adds a template that is only ever rendered with data of the given shape. -/
def addTyped (tree : Tree) (shape : Shape) (bundle : Bundle) : Bundle :=
  { bundle with entries := place ⟨tree, some shape⟩ bundle.entries }

def names (bundle : Bundle) : List String :=
  bundle.entries.map fun entry => entry.tree.name

/-- The template that the bundle renders when it is called. -/
def entryName (bundle : Bundle) : Except CompileError String := do
  let name ← match bundle.options.entry with
    | some name => .ok name
    | none =>
        match bundle.names.getLast? with
        | some name => .ok name
        | none => .error .emptyBundle
  if bundle.names.contains name then return name else .error (.noSuchTemplate name)

def extracted {α : Type} : Except ExtractError α → Except CompileError α
  | .ok value => .ok value
  | .error cause => .error (.extract cause)

def contextType (root : Ty) (entry : Entry) : Except CompileError Ty :=
  match entry.shape with
  | none => .ok root
  | some shape => extracted shape.extract

def checkEntry (known : List String) (funcs : List (String × FunctionType)) (root : Ty)
    (entry : Entry) : Except CompileError CheckedTemplate := do
  let context ← contextType root entry
  match entry.tree.check (some known) ((Scope.root context).withFunctions funcs) with
  | .ok checked => .ok checked
  | .error error => .error (.ofCheck entry.tree error)

def checkEntries (known : List String) (funcs : List (String × FunctionType)) (root : Ty) :
    List Entry → Except CompileError (List CheckedTemplate)
  | [] => .ok []
  | entry :: rest => do
      let checked ← checkEntry known funcs root entry
      return checked :: (← checkEntries known funcs root rest)

def checkAll (bundle : Bundle) (root : Shape) : Except CompileError (List CheckedTemplate) := do
  let rootType ← extracted root.extract
  let funcs ← extracted bundle.options.functionTypes
  checkEntries bundle.names funcs rootType bundle.entries

def preludeText : PreludeMode → String
  | .inline => Prelude.source
  | .linked binding => binding

/-- A bundle that is linked to a prelude refuses one of another version. -/
def versionGuard : PreludeMode → String
  | .inline => ""
  | .linked _ =>
      "if(!__rt||__rt.version!==" ++ Literal.script Prelude.version ++
        ")throw new Error(\"tmpljs: runtime " ++ Prelude.version ++ " required\");\n"

def definition (checked : CheckedTemplate) : String :=
  "__tmpls[" ++ Literal.script checked.name ++ "]=" ++ Script.template checked ++ ";\n"

def assemble (prelude : PreludeMode) (entry : String) (names : List String)
    (templates : List CheckedTemplate) : String :=
  "(function()\x7bvar __rt=" ++ preludeText prelude ++ ",__tmpls=\x7b\x7d,__g;\n" ++
    versionGuard prelude ++
    String.join (templates.map definition) ++
    "var __entry=function(ctx,funcs)\x7b__g=__rt.globals(funcs);return __tmpls[" ++
    Literal.script entry ++ "](ctx);\x7d;\n" ++
    "__entry.render=function(name,ctx,funcs)\x7b__g=__rt.globals(funcs);" ++
    "return __rt.include(__tmpls,name,ctx);\x7d;\n" ++
    "__entry.templates=[" ++ ",".intercalate (names.map Literal.script) ++ "];\n" ++
    "return __entry;\x7d)()"

/-- Checks and compiles every template. The shape is that of the data for the entry. -/
def compile (bundle : Bundle) (root : Shape) : Except CompileError String :=
  if bundle.entries.isEmpty then .error .emptyBundle
  else do
    let entry ← bundle.entryName
    let templates ← bundle.checkAll root
    return assemble bundle.options.prelude entry bundle.names templates

end Bundle

def compile (tree : Tree) (root : Shape) : Except CompileError String :=
  (Bundle.add tree (Bundle.empty Options.default)).compile root

end TemplateScript
