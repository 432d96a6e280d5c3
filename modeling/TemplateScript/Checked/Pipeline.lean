import TemplateScript.Checked.Basic
import TemplateScript.Number.Constant
import TemplateScript.Template.Render

/-!
Checking pipelines.

The commands of a pipeline are checked from left to right, and the value of each becomes the last
argument of the next one. The first failure is reported with the part of the tree it was found at.
-/
namespace TemplateScript

structure CheckError where
  kind : TypeError
  pos : Offset
  /-- The part of the tree, written back. -/
  context : String
deriving DecidableEq

def located {α : Type} (pos : Offset) (render : Unit → String) :
    Except TypeError α → Except CheckError α
  | .ok value => .ok value
  | .error kind => .error ⟨kind, pos, render ()⟩

def invoke (subject : Expr) (name : String) (ty : Ty) (args : List Expr) : Except TypeError Expr :=
  match ty with
  | .function _ (some ret) => .ok (.method subject name args ret)
  | .function _ none => .error (.voidInExpression name)
  | other => .error (.notCallable name other)

def callFunction (scope : Scope) (ident : String) (args : List Expr) : Except TypeError Expr := do
  let (name, ty) ← scope.functionNamed ident
  invoke (.globals scope.globals) name ty args

/-- Reads one member. A function is called with the arguments; other members take none. -/
def readMember (subject : Expr) (ident : String) (args : List Expr) : Except TypeError Expr := do
  let (name, ty) ← subject.ty.fieldNamed ident
  match ty with
  | .function _ _ => invoke subject name ty args
  | other =>
      if args.isEmpty then .ok (.field subject name other) else .error (.notCallable ident other)

/-- Reads members one after another. The arguments go to the last one, and functions on the way
are called without any. -/
def readChain (subject : Expr) (args : List Expr) : List String → Except TypeError Expr
  | [] => .ok subject
  | [last] => readMember subject last args
  | ident :: next :: rest => do
      readChain (← readMember subject ident []) args (next :: rest)

def readVariable (scope : Scope) (ident : List String) (args : List Expr) :
    Except TypeError Expr :=
  match ident with
  | [] => .error (.unsupported .emptyVariable)
  | first :: rest => do
      let (name, ty) ← scope.fieldNamed first
      if rest.isEmpty && !args.isEmpty then .error (.notCallable first ty)
      else readChain (.slot name ty) args rest

/-- The first argument of a command applied to the others. Only functions, members and variables
take arguments; the value of any other head is given by `value`. -/
def checkHead (scope : Scope) (head : Arg) (args : List Expr)
    (value : Unit → Except CheckError Expr) : Except CheckError Expr :=
  match head with
  | .identifier pos ident => located pos (fun _ => head.render) (callFunction scope ident args)
  | .field pos ident =>
      located pos (fun _ => head.render) (readChain (.context scope.context) args ident)
  | .var reading =>
      located reading.pos (fun _ => head.render) (readVariable scope reading.ident args)
  | other => do
      let found ← value ()
      if args.isEmpty then .ok found
      else .error ⟨.notCallable other.render found.ty, other.pos, other.render⟩

def numberConstant (literal : String) : Except TypeError Expr :=
  match Constant.read? literal with
  | some value => .ok (.ofConstant (.number value))
  | none => .error (.unsupported (.malformedNumber literal))

mutual

def checkArg (scope : Scope) : Arg → Except CheckError Expr
  | .number pos literal => located pos (fun _ => literal) (numberConstant literal)
  | .string _ content => .ok (.ofConstant (.string content))
  | .bool _ value => .ok (.ofConstant (.bool value))
  | .dot _ => .ok (.context scope.context)
  | .field pos ident =>
      located pos (fun _ => (Arg.field pos ident).render)
        (readChain (.context scope.context) [] ident)
  | .identifier pos ident => located pos (fun _ => ident) (callFunction scope ident [])
  | .var reading =>
      located reading.pos (fun _ => reading.render) (readVariable scope reading.ident [])
  | .pipe inner =>
      if inner.targets.isEmpty then checkPipe scope inner
      else .error ⟨.unsupported .parenthesizedDeclaration, inner.pos, (Arg.pipe inner).render⟩

def checkArgs (scope : Scope) : List Arg → Except CheckError (List Expr)
  | [] => .ok []
  | arg :: rest => do
      let found ← checkArg scope arg
      return found :: (← checkArgs scope rest)

def checkCommand (scope : Scope) (whole : Pipe) (piped : Option Expr) :
    Command → Except CheckError Expr
  | ⟨pos, []⟩ => .error ⟨.unsupported .emptyCommand, pos, whole.render⟩
  | ⟨_, head :: rest⟩ => do
      let args ← checkArgs scope rest
      checkHead scope head (args ++ piped.toList) fun _ => checkArg scope head

def checkCommands (scope : Scope) (whole : Pipe) (piped : Option Expr) :
    List Command → Except CheckError (Option Expr)
  | [] => .ok piped
  | command :: rest => do
      let found ← checkCommand scope whole piped command
      checkCommands scope whole (some found) rest

def checkPipe (scope : Scope) : Pipe → Except CheckError Expr
  | ⟨pos, assigns, targets, commands⟩ => do
      match ← checkCommands scope ⟨pos, assigns, targets, commands⟩ none commands with
      | some found => .ok found
      | none =>
          .error ⟨.unsupported .emptyPipeline, pos, (Pipe.mk pos assigns targets commands).render⟩

end

end TemplateScript
