import TemplateScript.Number.Constant
import TemplateScript.Proofs.Rendering.Datum
import TemplateScript.Proofs.Rendering.Stack
import TemplateScript.Template.Basic

/-!
What a parsed template means, without compiling it.

The nodes are gone through in order. Every block has variables of its own: a variable exists from
the place where it is declared to the end of its block and hides those of the same name outside, and
an assignment changes the innermost one. Values are seen together with their types, as by
reflection, because fields are named by the type; nothing is resolved ahead of time. The functions
are the members of a table of a given type. There is no meaning where something is missing.
-/
namespace TemplateScript

variable {F : Type}

structure Reflected (F : Type) where
  ty : Ty
  datum : Datum F

/-- What has been rendered, and the variables of the open blocks, innermost first. -/
structure Page (F : Type) where
  blocks : List (NameMap (Reflected F))
  out : Units

namespace Reflected

def member? (world : World F) (ident : String) (args : List (Datum F)) (subject : Reflected F) :
    Option (Reflected F) :=
  match subject.ty.fieldNamed ident with
  | .error _ => none
  | .ok (name, ty) =>
      match ty, subject.datum.member? name with
      | .function _ (some ret), some (.function id) =>
          some ⟨ret, world.apply id subject.datum args⟩
      | .function _ _, _ | _, none => none
      | ty, some found => if args.isEmpty then some ⟨ty, found⟩ else none

/-- Reads members one after another. The arguments go to the last one, so there must be one. -/
def chain? (world : World F) (args : List (Datum F)) :
    List String → Reflected F → Option (Reflected F)
  | [], subject => if args.isEmpty then some subject else none
  | [last], subject => subject.member? world last args
  | ident :: next :: rest, subject => do
      chain? world args (next :: rest) (← subject.member? world ident [])

end Reflected

structure Surroundings (F : Type) where
  dot : Reflected F
  table : Ty
  blocks : List (NameMap (Reflected F))

mutual

def Arg.evaluate? (world : World F) (around : Surroundings F) : Arg → Option (Reflected F)
  | .number _ literal => (Constant.read? literal).map fun value => ⟨.number, .number value⟩
  | .string _ content => some ⟨.string, .string (units content)⟩
  | .bool _ value => some ⟨.boolean, .bool value⟩
  | .dot _ => some around.dot
  | .field _ ident => around.dot.chain? world [] ident
  | .identifier _ ident => Reflected.member? world ident [] ⟨around.table, world.globals⟩
  | .var ⟨_, []⟩ => none
  | .var ⟨_, first :: rest⟩ => do
      let found ← Stack.find? first around.blocks
      found.chain? world [] rest
  | .pipe inner => inner.evaluate? world around

def Arg.evaluateAll? (world : World F) (around : Surroundings F) :
    List Arg → Option (List (Datum F))
  | [] => some []
  | arg :: rest => do
      let found ← arg.evaluate? world around
      return found.datum :: (← Arg.evaluateAll? world around rest)

/-- The value of the command in front of this one is its last argument. -/
def Command.evaluate? (world : World F) (around : Surroundings F) (piped : Option (Datum F)) :
    Command → Option (Reflected F)
  | ⟨_, []⟩ => none
  | ⟨_, .identifier _ ident :: rest⟩ => do
      let args ← Arg.evaluateAll? world around rest
      Reflected.member? world ident (args ++ piped.toList) ⟨around.table, world.globals⟩
  | ⟨_, .field _ ident :: rest⟩ => do
      let args ← Arg.evaluateAll? world around rest
      around.dot.chain? world (args ++ piped.toList) ident
  | ⟨_, .var ⟨_, first :: idents⟩ :: rest⟩ => do
      let args ← Arg.evaluateAll? world around rest
      let found ← Stack.find? first around.blocks
      found.chain? world (args ++ piped.toList) idents
  | ⟨_, head :: rest⟩ =>
      if rest.isEmpty && piped.isNone then head.evaluate? world around else none

def Command.evaluateAll? (world : World F) (around : Surroundings F)
    (piped : Option (Reflected F)) : List Command → Option (Reflected F)
  | [] => piped
  | command :: rest => do
      let found ← command.evaluate? world around (piped.map Reflected.datum)
      Command.evaluateAll? world around (some found) rest

def Pipe.evaluate? (world : World F) (around : Surroundings F) : Pipe → Option (Reflected F)
  | ⟨_, _, _, commands⟩ => Command.evaluateAll? world around none commands

end

namespace Page

def append (text : Units) (page : Page F) : Page F :=
  { page with out := page.out ++ text }

def around (table : Ty) (dot : Reflected F) (page : Page F) : Surroundings F :=
  ⟨dot, table, page.blocks⟩

def declare? (name : String) (value : Reflected F) (page : Page F) : Option (Page F) :=
  match page.blocks with
  | [] => none
  | block :: outer => some { page with blocks := NameMap.insert name value block :: outer }

def assign? (name : String) (value : Reflected F) (page : Page F) : Option (Page F) :=
  (Stack.write? name value page.blocks).map fun blocks => { page with blocks := blocks }

/-- Goes through a block that starts with the given variables, which end with it. -/
def inside? (started : List (String × Reflected F)) (show? : Page F → Option (Page F))
    (page : Page F) : Option (Page F) :=
  (show? { page with blocks := NameMap.ofList started :: page.blocks }).map fun after =>
    { after with blocks := after.blocks.tail }

def each? (show? : Nat → Datum F → Page F → Option (Page F)) :
    Nat → List (Datum F) → Page F → Option (Page F)
  | _, [], page => some page
  | index, item :: rest, page => do each? show? (index + 1) rest (← show? index item page)

end Page

/-- A value is printed, or goes to the one variable in front of it. -/
def Pipe.act? (world : World F) (table : Ty) (dot : Reflected F) (pipe : Pipe) (page : Page F) :
    Option (Page F) := do
  let value ← pipe.evaluate? world (page.around table dot)
  match pipe.targets.map Variable.ident with
  | [] => some (page.append value.datum.value.print)
  | [[name]] => if pipe.assigns then page.assign? name value else page.declare? name value
  | _ => none

def testVariables? (value : Reflected F) :
    List (List String) → Option (List (String × Reflected F))
  | [] => some []
  | [[name]] => some [(name, value)]
  | _ => none

/-- The body of a loop sees the element, or the position and the element. -/
def rangeVariables? (element : Ty) (position : Nat) (item : Datum F) :
    List (List String) → Option (List (String × Reflected F))
  | [] => some []
  | [[value]] => some [(value, ⟨element, item⟩)]
  | [[index], [value]] =>
      some [(index, ⟨.number, .number (.ofNat position)⟩), (value, ⟨element, item⟩)]
  | _ => none

/-- Chooses an arm of a block. Only the body can see what the block declares. -/
def BranchKind.choose? (world : World F) (table : Ty) (dot : Reflected F) (kind : BranchKind)
    (pipe : Pipe) (body : Reflected F → Page F → Option (Page F))
    (otherwise : Page F → Option (Page F)) (page : Page F) : Option (Page F) := do
  let value ← pipe.evaluate? world (page.around table dot)
  let targets := pipe.targets.map Variable.ident
  match kind with
  | .range =>
      match value with
      | ⟨.array _, .array []⟩ => page.inside? [] otherwise
      | ⟨.array element, .array items⟩ =>
          page.each? (fun position item page => do
            let started ← rangeVariables? element position item targets
            page.inside? started (body ⟨element, item⟩)) 0 items
      | _ => none
  | .if | .with =>
      let started ← testVariables? value targets
      if value.datum.value.truth then
        page.inside? started (body (if kind = .with then value else dot))
      else page.inside? [] otherwise

mutual

def Node.interpret? (world : World F) (table : Ty) :
    Node → Reflected F → Page F → Option (Page F)
  | .text _ content, _, page => some (page.append (units content))
  | .comment _ _, _, page => some page
  | .action _ pipe, dot, page => pipe.act? world table dot page
  | .branch kind _ pipe body none, dot, page =>
      kind.choose? world table dot pipe (body.interpret? world table) some page
  | .branch kind _ pipe body (some otherwise), dot, page =>
      kind.choose? world table dot pipe (body.interpret? world table)
        (otherwise.interpret? world table dot) page
  | .template _ name none, _, page => some (page.append (world.render name none))
  | .template _ name (some pipe), dot, page => do
      let value ← pipe.evaluate? world (page.around table dot)
      if pipe.targets.isEmpty then some (page.append (world.render name (some value.datum)))
      else none

def Node.interpretAll? (world : World F) (table : Ty) :
    List Node → Reflected F → Page F → Option (Page F)
  | [], _, page => some page
  | node :: rest, dot, page => do
      Node.interpretAll? world table rest dot (← node.interpret? world table dot page)

def Block.interpret? (world : World F) (table : Ty) :
    Block → Reflected F → Page F → Option (Page F)
  | ⟨_, nodes⟩, dot, page => Node.interpretAll? world table nodes dot page

end

def Tree.interpret? (world : World F) (table : Ty) (data : Reflected F) (tree : Tree) :
    Option Units :=
  (tree.root.interpret? world table data ⟨[NameMap.ofList [("$", data)]], []⟩).map Page.out

end TemplateScript
