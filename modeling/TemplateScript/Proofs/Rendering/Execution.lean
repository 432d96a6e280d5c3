import TemplateScript.Checked.Basic
import TemplateScript.Proofs.Rendering.Datum
import TemplateScript.Proofs.Rendering.Stack

/-!
How the script of a checked template runs.

The function of a template and the arms of its blocks are closures. Each owns its parameters, which
have values from the start, and its hoisted variables, which exist from the start and have values
once they are written. A name means the innermost closure that has it. Whatever a script could go
wrong with stops it, and every expression it evaluates is kept in a trace together with its value.
-/
namespace TemplateScript

inductive Stuck
  | noMember (name : String)
  | notFunction
  | notArray
  | undeclared (name : String)
  /-- A variable that exists but was not written yet. -/
  | unassigned (name : String)
  | noText (cause : Fault)

variable {F : Type}

abbrev Closure (F : Type) := NameMap (Option (Datum F))

abbrev Trace (F : Type) := List (Expr × Datum F)

structure State (F : Type) where
  closures : List (Closure F)
  out : Units
  seen : Trace F

namespace Datum

def ofConstant : Constant.Value → Datum F
  | .number value => .number value
  | .bool value => .bool value
  | .string value => .string (units value)

def member (name : String) (datum : Datum F) : Except Stuck (Datum F) :=
  match datum.member? name with
  | some found => .ok found
  | none => .error (.noMember name)

def call (world : World F) (callee this : Datum F) (args : List (Datum F)) :
    Except Stuck (Datum F) :=
  match callee with
  | .function id => .ok (world.apply id this args)
  | _ => .error .notFunction

def items : Datum F → Except Stuck (List (Datum F))
  | .array items => .ok items
  | _ => .error .notArray

/-- How a test comes out. The script asks for the length only where the type is an array. -/
def passes (ty : Ty) (datum : Datum F) : Except Stuck Bool :=
  if ty.isArray then datum.items.map fun items => !items.isEmpty
  else .ok datum.value.scriptTruth

/-- The text that is appended for a value. Primitive values are left to the script language. -/
def emission (ty : Ty) (datum : Datum F) : Except Stuck Units :=
  if ty.isPrimitive then datum.value.convert.mapError .noText else .ok datum.value.print

end Datum

namespace Closure

def start (params : List (String × Datum F)) (hoisted : List String) : Closure F :=
  NameMap.insertAll (params.map fun param => (param.1, some param.2))
    (NameMap.ofList (hoisted.map fun name => (name, none)))

def ofBlock (params : List (String × Datum F)) (frame : Frame) : Closure F :=
  start params (frame.hoisted (params.map Prod.fst))

def read (name : String) (closures : List (Closure F)) : Except Stuck (Datum F) :=
  match Stack.find? name closures with
  | some (some found) => .ok found
  | some none => .error (.unassigned name)
  | none => .error (.undeclared name)

def write (name : String) (value : Datum F) (closures : List (Closure F)) :
    Except Stuck (List (Closure F)) :=
  match Stack.write? name (some value) closures with
  | some written => .ok written
  | none => .error (.undeclared name)

end Closure

mutual

def Expr.eval (world : World F) (context : Datum F) (closures : List (Closure F)) :
    Expr → Except Stuck (Datum F × Trace F)
  | .constant value ty => .ok (.ofConstant value, [(.constant value ty, .ofConstant value)])
  | .field subject name ty => do
      let (this, trace) ← subject.eval world context closures
      let found ← this.member name
      return (found, (.field subject name ty, found) :: trace)
  | .method subject name args ty => do
      let (this, trace) ← subject.eval world context closures
      let callee ← this.member name
      let (values, more) ← Expr.evalAll world context closures args
      let found ← callee.call world this values
      return (found, (.method subject name args ty, found) :: (trace ++ more))
  | .slot name ty => do
      let found ← Closure.read name closures
      return (found, [(.slot name ty, found)])
  | .context ty => .ok (context, [(.context ty, context)])
  | .globals ty => .ok (world.globals, [(.globals ty, world.globals)])

def Expr.evalAll (world : World F) (context : Datum F) (closures : List (Closure F)) :
    List Expr → Except Stuck (List (Datum F) × Trace F)
  | [] => .ok ([], [])
  | first :: rest => do
      let (found, trace) ← first.eval world context closures
      let (others, more) ← Expr.evalAll world context closures rest
      return (found :: others, trace ++ more)

end

namespace State

def append (text : Units) (state : State F) : State F :=
  { state with out := state.out ++ text }

def evaluate (world : World F) (context : Datum F) (value : Expr) (state : State F) :
    Except Stuck (Datum F × State F) := do
  let (found, trace) ← value.eval world context state.closures
  return (found, { state with seen := state.seen ++ trace })

def write (name : String) (value : Datum F) (state : State F) : Except Stuck (State F) :=
  (Closure.write name value state.closures).map fun closures => { state with closures := closures }

/-- Runs in one more closure, which is gone afterwards. -/
def inside (closure : Closure F) (run : State F → Except Stuck (State F)) (state : State F) :
    Except Stuck (State F) :=
  (run { state with closures := closure :: state.closures }).map fun after =>
    { after with closures := after.closures.tail }

/-- The indexed loop. The flag tells in the end whether there was an element. -/
def each (run : Nat → Datum F → State F → Except Stuck (State F)) :
    Nat → List (Datum F) → Bool → State F → Except Stuck (Bool × State F)
  | _, [], any, state => .ok (any, state)
  | index, item :: rest, _, state => do each run (index + 1) rest true (← run index item state)

end State

def loopParams (index value : Option String) (position : Nat) (item : Datum F) :
    List (String × Datum F) :=
  (index.toList.map fun name => (name, .number (.ofNat position))) ++
    value.toList.map fun name => (name, item)

mutual

def Statement.exec (world : World F) :
    Statement → Datum F → State F → Except Stuck (State F)
  | .text content, _, state => .ok (state.append (units content))
  | .emit value, context, state => do
      let (found, state) ← state.evaluate world context value
      let text ← found.emission value.ty
      return state.append text
  | .declare name value, context, state | .assign name value, context, state => do
      let (found, state) ← state.evaluate world context value
      state.write name found
  | .conditional test rebinds bound body frame otherwise otherFrame, context, state => do
      let (tested, state) ← state.evaluate world context test
      if ← tested.passes test.ty then
        state.inside (.ofBlock (bound.toList.map fun name => (name, tested)) frame)
          (Statement.execAll world body (if rebinds then tested else context))
      else if otherwise.isEmpty then return state
      else state.inside (.ofBlock [] otherFrame) (Statement.execAll world otherwise context)
  | .loop subject index value body frame otherwise otherFrame, context, state => do
      let (ranged, state) ← state.evaluate world context subject
      let items ← ranged.items
      let run := fun position item (state : State F) =>
        state.inside (.ofBlock (loopParams index value position item) frame)
          (Statement.execAll world body item)
      let (any, state) ← State.each run 0 items false state
      if any || otherwise.isEmpty then return state
      else state.inside (.ofBlock [] otherFrame) (Statement.execAll world otherwise context)
  | .include name none, _, state => .ok (state.append (world.render name none))
  | .include name (some value), context, state => do
      let (found, state) ← state.evaluate world context value
      return state.append (world.render name (some found))

def Statement.execAll (world : World F) :
    List Statement → Datum F → State F → Except Stuck (State F)
  | [], _, state => .ok state
  | first :: rest, context, state => do
      Statement.execAll world rest context (← first.exec world context state)

end

/-- Calls the function of a template. Its closure has the dollar sign among its variables. -/
def CheckedTemplate.run (world : World F) (data : Datum F) (checked : CheckedTemplate) :
    Except Stuck (State F) :=
  Statement.execAll world checked.body data
    ⟨[Closure.start [("$", data)] (checked.frame.hoisted [])], [], []⟩

end TemplateScript
