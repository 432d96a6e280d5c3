import TemplateScript.Checked.Pipeline

/-!
Checking trees.

Nodes are checked in order, and each sees the variables declared before it at its level. The arms
of a branch are levels of their own: the body sees what the branch binds, the other arm does not.
Checking stops at the first failure.
-/
namespace TemplateScript

def targetName (render : Unit → String) (target : Variable) : Except CheckError String :=
  match target.ident with
  | [name] => .ok name
  | _ => .error ⟨.unsupported (.target target.ident), target.pos, render ()⟩

def targetNames (render : Unit → String) : List Variable → Except CheckError (List String)
  | [] => .ok []
  | target :: rest => do
      let name ← targetName render target
      return name :: (← targetNames render rest)

/-- The name that a pipeline declares or assigns, of which there may be at most one. -/
def singleTarget (render : Unit → String) (pipe : Pipe) : Except CheckError (Option String) :=
  match pipe.targets with
  | [] => .ok none
  | [target] => (targetName render target).map some
  | _ => .error ⟨.unsupported .multipleTargets, pipe.pos, render ()⟩

/-- The value is checked before its target is bound, so a declaration may read the variable that
it hides. -/
def checkAction (scope : Scope) (pos : Offset) (pipe : Pipe) :
    Except CheckError (Statement × Scope) := do
  let render := fun _ => (Node.action pos pipe).render
  match ← singleTarget render pipe with
  | none => return (.emit (← checkPipe scope pipe), scope)
  | some name =>
      let value ← checkPipe scope pipe
      if pipe.assigns then
        let (generated, declared) ← located pos render (scope.fieldNamed name)
        if declared = value.ty then return (.assign generated value, scope)
        else .error ⟨.assignmentMismatch name declared value.ty, pos, render ()⟩
      else
        let (generated, scope) := scope.declareLocal name value.ty
        return (.declare generated value, scope)

/-- What opens a block, before its arms are known. -/
inductive BranchHead
  | conditional (test : Expr) (rebinds : Bool) (bound : Option String)
  | loop (subject : Expr) (index : Option String) (value : Option String)

def BranchHead.close (body : List Statement) (frame : Frame) (otherwise : List Statement)
    (otherFrame : Frame) : BranchHead → Statement
  | .conditional test rebinds bound =>
      .conditional test rebinds bound body frame otherwise otherFrame
  | .loop subject index value => .loop subject index value body frame otherwise otherFrame

def declareIf (name : Option String) (ty : Ty) (scope : Scope) : Scope :=
  match name with
  | none => scope
  | some name => scope.declare name ty

/-- A test binds at most one variable, and becomes the context if the block rebinds it. -/
def openConditional (scope : Scope) (rebinds : Bool) (pipe : Pipe) (render : Unit → String) :
    Except CheckError (BranchHead × Scope) := do
  let bound ← singleTarget render pipe
  let child := scope.child
  let test ← checkPipe child pipe
  let child := declareIf bound test.ty child
  let child := if rebinds then child.setContext test.ty else child
  return (.conditional test rebinds bound, child)

/-- One name stands for the element, two for the index and the element. -/
def loopNames (render : Unit → String) (pos : Offset) :
    List String → Except CheckError (Option String × Option String)
  | [] => .ok (none, none)
  | [value] => .ok (none, some value)
  | [index, value] => .ok (some index, some value)
  | _ => .error ⟨.unsupported .rangeTargets, pos, render ()⟩

def openLoop (scope : Scope) (pos : Offset) (pipe : Pipe) (render : Unit → String) :
    Except CheckError (BranchHead × Scope) := do
  let (index, value) ← loopNames render pos (← targetNames render pipe.targets)
  let child := scope.child
  let subject ← checkPipe child pipe
  let element ← located pos render subject.ty.iterate
  let child := declareIf value element (declareIf index .number (child.setContext element))
  return (.loop subject index value, child)

def openBranch (scope : Scope) (kind : BranchKind) (pos : Offset) (pipe : Pipe)
    (render : Unit → String) : Except CheckError (BranchHead × Scope) :=
  if pipe.assigns then .error ⟨.unsupported .assignmentInTest, pos, render ()⟩
  else
    match kind with
    | .if => openConditional scope false pipe render
    | .with => openConditional scope true pipe render
    | .range => openLoop scope pos pipe render

/-- The names that templates may be rendered by; without a list, any name will do. -/
abbrev KnownTemplates := Option (List String)

def KnownTemplates.admits (known : KnownTemplates) (name : String) : Bool :=
  match known with
  | none => true
  | some names => names.contains name

def checkTemplate (known : KnownTemplates) (scope : Scope) (pos : Offset) (name : String)
    (pipe : Option Pipe) : Except CheckError Statement :=
  if KnownTemplates.admits known name then
    match pipe with
    | none => .ok (.include name none)
    | some pipe => (checkPipe scope pipe).map fun context => .include name (some context)
  else .error ⟨.undefinedTemplate name, pos, (Node.template pos name pipe).render⟩

mutual

/-- A node, and the scope for the nodes after it. Comments leave no statement. -/
def checkNode (known : KnownTemplates) (scope : Scope) :
    Node → Except CheckError (List Statement × Scope)
  | .text _ content => .ok ([.text content], scope)
  | .comment _ _ => .ok ([], scope)
  | .action pos pipe => do
      let (statement, scope) ← checkAction scope pos pipe
      return ([statement], scope)
  | .branch kind pos pipe body otherwise => do
      let render := fun _ => (Node.branch kind pos pipe body otherwise).render
      let (head, child) ← openBranch scope kind pos pipe render
      let (statements, frame) ← checkBlock known child body
      let (otherStatements, otherFrame) ← match otherwise with
        | none => .ok ([], scope.child.toFrame)
        | some block => checkBlock known scope.child block
      return ([head.close statements frame otherStatements otherFrame], scope)
  | .template pos name pipe => do
      return ([← checkTemplate known scope pos name pipe], scope)

def checkNodes (known : KnownTemplates) (scope : Scope) :
    List Node → Except CheckError (List Statement × Scope)
  | [] => .ok ([], scope)
  | node :: rest => do
      let (statements, scope) ← checkNode known scope node
      let (more, scope) ← checkNodes known scope rest
      return (statements ++ more, scope)

def checkBlock (known : KnownTemplates) (scope : Scope) :
    Block → Except CheckError (List Statement × Frame)
  | ⟨_, nodes⟩ => do
      let (statements, scope) ← checkNodes known scope nodes
      return (statements, scope.toFrame)

end

def Tree.check (known : KnownTemplates) (root : Scope) (tree : Tree) :
    Except CheckError CheckedTemplate := do
  let (body, frame) ← checkBlock known root.child tree.root
  return ⟨tree.name, body, frame⟩

end TemplateScript
