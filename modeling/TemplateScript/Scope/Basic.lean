import TemplateScript.Scope.Builtins
import TemplateScript.Ty.Error

/-!
Scopes: the type of the dot and the names visible at one block level, inside the enclosing levels.

Functions and variables share one map per level. The name of a function carries a mark in front,
and variables start with a dollar sign, so the two do not meet in templates. A variable declared
where an enclosing level already has one of that name gets a generated name of its own.
-/
namespace TemplateScript

structure Level where
  context : Ty
  bindings : NameMap Ty
  /-- Generated names of the variables that hide one of an enclosing level. -/
  renamed : NameMap String

/-- A level together with the enclosing ones, innermost first. -/
structure Scope where
  level : Level
  outer : List Level

/-- A level that is complete, with its variables under their generated names. -/
structure Frame where
  context : Ty
  locals : NameMap Ty
deriving DecidableEq

/-- The mark in front of the names of functions. -/
def functionMark : Char := '#'

def functionKey (ident : String) : String :=
  String.ofList (functionMark :: ident.toList)

def isFunctionKey (name : String) : Bool :=
  name.toList.head? = some functionMark

namespace Level

def empty (context : Ty) : Level := ⟨context, [], []⟩

def generatedName (name : String) (level : Level) : String :=
  (NameMap.get? name level.renamed).getD name

def find? (name : String) (level : Level) : Option (String × Ty) :=
  (NameMap.get? name level.bindings).map fun ty => (level.generatedName name, ty)

def bind (name : String) (ty : Ty) (level : Level) : Level :=
  { level with bindings := NameMap.insert name ty level.bindings }

def bindFunctions (functions : List (String × FunctionType)) (level : Level) : Level :=
  let entries := functions.map fun (name, function) => (functionKey name, function.toTy)
  { level with bindings := NameMap.insertAll entries level.bindings }

def toFrame (level : Level) : Frame where
  context := level.context
  locals := NameMap.ofList (level.bindings.map fun (name, ty) => (level.generatedName name, ty))

/-- The names of the functions or of the variables at this level, without the mark. -/
def namesOf (functions : Bool) (level : Level) : List String :=
  ((NameMap.keys level.bindings).filter fun name => isFunctionKey name = functions).map
    fun name => String.ofList (name.toList.dropWhile (· = functionMark))

def functions (level : Level) : List (String × Ty) :=
  level.bindings.filterMap fun (name, ty) =>
    match name.toList with
    | first :: rest => if first = functionMark then some (String.ofList rest, ty) else none
    | [] => none

end Level

namespace Scope

/-- The outermost level: the dollar sign for the root value, and the builtin functions. -/
def root (context : Ty) : Scope where
  level := ((Level.empty context).bind "$" context).bindFunctions Builtins.table
  outer := []

/-- Adds functions; one with the name of a builtin takes its place. -/
def withFunctions (functions : List (String × FunctionType)) (scope : Scope) : Scope :=
  { scope with level := scope.level.bindFunctions functions }

def context (scope : Scope) : Ty :=
  scope.level.context

def setContext (context : Ty) (scope : Scope) : Scope :=
  { scope with level := { scope.level with context := context } }

def levels (scope : Scope) : List Level :=
  scope.level :: scope.outer

def depth (scope : Scope) : Nat :=
  scope.outer.length

def child (scope : Scope) : Scope where
  level := Level.empty scope.context
  outer := scope.levels

/-- Leaves the innermost level, unless it is the outermost one too. -/
def parent? (scope : Scope) : Option Scope :=
  match scope.outer with
  | [] => none
  | level :: outer => some ⟨level, outer⟩

/-- The generated name and type of a name at the innermost of the levels that has it. -/
def lookup (name : String) (levels : List Level) : Option (String × Ty) :=
  levels.findSome? (Level.find? name)

/-- Binds a name at this level as it is, for the parameters of a block. -/
def declare (name : String) (ty : Ty) (scope : Scope) : Scope :=
  { scope with level := scope.level.bind name ty }

def shadowName (name : String) (depth : Nat) : String :=
  name ++ "$" ++ toString depth

/-- Whether declaring the name here hides a variable of an enclosing level. -/
def hides (name : String) (scope : Scope) : Bool :=
  !NameMap.contains name scope.level.bindings && (lookup name scope.outer).isSome

/-- Binds a declared variable. What was read before the declaration still means the variable of
the enclosing level, so a variable that hides one is renamed. -/
def declareLocal (name : String) (ty : Ty) (scope : Scope) : String × Scope :=
  let renamed :=
    if scope.hides name then
      NameMap.insert name (shadowName name scope.depth) scope.level.renamed
    else scope.level.renamed
  let level : Level := { scope.level.bind name ty with renamed := renamed }
  (level.generatedName name, { scope with level := level })

/-- The names that a message offers: each once, in order. -/
def candidates (functions : Bool) (scope : Scope) : List String :=
  NameMap.keys (NameMap.ofList
    ((scope.levels.flatMap (Level.namesOf functions)).map fun name => (name, ())))

def fieldNamed (name : String) (scope : Scope) : Except TypeError (String × Ty) :=
  match lookup name scope.levels with
  | some found => .ok found
  | none => .error (.undefinedVariable name (scope.candidates false))

def functionNamed (ident : String) (scope : Scope) : Except TypeError (String × Ty) :=
  match lookup (functionKey ident) scope.levels with
  | some (_, ty) => .ok (ident, ty)
  | none => .error (.undefinedVariable ident (scope.candidates true))

/-- The table of functions cannot be ranged over. -/
def iterate (_ : Scope) : Except TypeError Ty :=
  .error .globalsNotIterable

def addMissing (fields : NameMap Ty) (entries : List (String × Ty)) : NameMap Ty :=
  entries.foldl
    (fun built entry =>
      if NameMap.contains entry.1 built then built else NameMap.insert entry.1 entry.2 built)
    fields

/-- The type of the table of functions: an object with every visible function as a field. -/
def globals (scope : Scope) : Ty :=
  .object (addMissing [] (scope.levels.flatMap Level.functions)) []

def toFrame (scope : Scope) : Frame :=
  scope.level.toFrame

end Scope

/-- Variables of a frame that are not among the given parameters. -/
def Frame.hoisted (params : List String) (frame : Frame) : List String :=
  (NameMap.keys frame.locals).filter fun name => !params.contains name

end TemplateScript
