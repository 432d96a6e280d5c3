import TemplateScript.Checked.Basic
import TemplateScript.Number.Style
import TemplateScript.Text.Literal

/-!
Script text of checked templates.

A template becomes a function of its context that returns the rendered text. The arms of a block
become closures that are called where they stand, so each has variables of its own. The names
that the text itself uses do not start with a dollar sign and cannot meet those of templates.
-/
namespace TemplateScript.Script

/-- Negative numbers stand in parentheses. -/
def number (value : Double) : String :=
  if value.isNegative then "(" ++ value.text .plain ++ ")" else value.text .plain

def constant : Constant.Value → String
  | .number value => number value
  | .bool true => "true"
  | .bool false => "false"
  | .string value => Literal.script value

mutual

def expr : Expr → String
  | .constant value _ => constant value
  | .field subject name _ => expr subject ++ memberAccess name
  | .method subject name args _ =>
      expr subject ++ memberAccess name ++ "(" ++ ",".intercalate (exprs args) ++ ")"
  | .slot name _ => name
  | .context _ => "ctx"
  | .globals _ => "__g"

def exprs : List Expr → List String
  | [] => []
  | first :: rest => expr first :: exprs rest

end

/-- Names in a list of parameters or variables, each after a comma. -/
def listed (names : List String) : String :=
  String.join (names.map ("," ++ ·))

def hoisting (names : List String) : String :=
  if names.isEmpty then "" else "var " ++ ",".intercalate names ++ ";"

/-- A closure called at once. The first argument becomes its context. -/
def closure (params args : List String) (frame : Frame) (body : String) : String :=
  "(function(ctx" ++ listed params ++ ")\x7b" ++ hoisting (frame.hoisted params) ++ body ++
    "\x7d)(" ++ ",".intercalate args ++ ");"

/-- Primitive values are appended as they are. -/
def emission (value : Expr) : String :=
  if value.ty.isPrimitive then "out+=" ++ expr value ++ ";"
  else "out+=__rt.str(" ++ expr value ++ ");"

/-- An empty array counts as false. -/
def condition (test : Expr) : String :=
  if test.ty.isArray then "v&&v.length>0" else "v"

/-- What the closure of a conditional is called with: the context and, if it is bound, the test. -/
def testArgs (rebinds : Bool) (bound : Option String) : List String :=
  (if rebinds then "v" else "ctx") :: bound.toList.map fun _ => "v"

/-- What the closure of a loop is called with: the element as context, then index and element as
far as they are bound. -/
def loopArgs (index value : Option String) : List String :=
  "it[i]" :: (index.toList.map (fun _ => "i") ++ value.toList.map fun _ => "it[i]")

def text (content : String) : String :=
  if content.isEmpty then "" else "out+=" ++ Literal.script content ++ ";"

def assignment (name : String) (value : Expr) : String :=
  name ++ "=" ++ expr value ++ ";"

/-- A conditional around the text of its arms. The second one is left out if it is empty. -/
def conditional (test : Expr) (hasElse : Bool) (body otherwise : String) : String :=
  "var v=" ++ expr test ++ ";if(" ++ condition test ++ ")\x7b" ++ body ++ "\x7d" ++
    (if hasElse then "else\x7b" ++ otherwise ++ "\x7d" else "")

/-- A loop around the text of its arms. A flag tells the second one whether there was an element. -/
def loop (subject : Expr) (hasElse : Bool) (body otherwise : String) : String :=
  "var it=" ++ expr subject ++ (if hasElse then ",any=false" else "") ++
    ";for(var i=0;it&&i<it.length;i++)\x7b" ++ (if hasElse then "any=true;" else "") ++ body ++
    "\x7d" ++ (if hasElse then "if(!any)\x7b" ++ otherwise ++ "\x7d" else "")

def contextArg : Option Expr → String
  | none => "null"
  | some value => expr value

def inclusion (name : String) (context : Option Expr) : String :=
  "out+=__rt.include(__tmpls," ++ Literal.script name ++ "," ++ contextArg context ++ ");"

mutual

def statement : Statement → String
  | .text content => text content
  | .emit value => emission value
  | .declare name value => assignment name value
  | .assign name value => assignment name value
  | .conditional test rebinds bound body frame otherwise otherFrame =>
      conditional test (!otherwise.isEmpty)
        (closure bound.toList (testArgs rebinds bound) frame (statements body))
        (closure [] ["ctx"] otherFrame (statements otherwise))
  | .loop subject index value body frame otherwise otherFrame =>
      loop subject (!otherwise.isEmpty)
        (closure (index.toList ++ value.toList) (loopArgs index value) frame (statements body))
        (closure [] ["ctx"] otherFrame (statements otherwise))
  | .include name context => inclusion name context

def statements : List Statement → String
  | [] => ""
  | first :: rest => statement first ++ statements rest

end

def template (checked : CheckedTemplate) : String :=
  "function(ctx)\x7bvar $=ctx,out=\"\"" ++ listed (checked.frame.hoisted []) ++ ";" ++
    statements checked.body ++ "return out;\x7d"

end TemplateScript.Script
