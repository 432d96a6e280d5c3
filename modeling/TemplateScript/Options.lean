import TemplateScript.Shape.Document
import TemplateScript.Shape.Extract

/-!
Compile options: the functions that templates may call besides the builtins, the template that a
bundle renders by default, and where a bundle finds the prelude.
-/
namespace TemplateScript

open Json

/-- How a bundle gets hold of the prelude. -/
inductive PreludeMode
  /-- Its source is part of the bundle. -/
  | inline
  /-- The page has loaded it under the given expression. -/
  | linked (binding : String)
deriving DecidableEq

structure Options where
  funcs : NameMap Signature
  ordered : NameMap.Ordered funcs
  /-- Without an entry, the last template of the bundle is the entry. -/
  entry : Option String
  prelude : PreludeMode

namespace Options

def default : Options where
  funcs := []
  ordered := .nil
  entry := none
  prelude := .inline

def withFunc (name : String) (signature : Signature) (options : Options) : Options :=
  { options with
    funcs := NameMap.insert name signature options.funcs
    ordered := NameMap.ordered_insert name signature options.ordered }

def withEntry (entry : String) (options : Options) : Options :=
  { options with entry := some entry }

def linked (binding : String) (options : Options) : Options :=
  { options with prelude := .linked binding }

end Options

def functionTypes : NameMap Signature → Except ExtractError (List (String × FunctionType))
  | [] => .ok []
  | (name, signature) :: rest => do
      let function ← signature.extractAt name
      return (name, function) :: (← functionTypes rest)

def PreludeMode.toJson : PreludeMode → Json
  | .inline => .object [("mode", .string "inline")]
  | .linked binding => .object [("mode", .string "linked"), ("binding", .string binding)]

inductive PreludeMode.Kind
  | inline | linked

def PreludeMode.kinds : List (String × PreludeMode.Kind) :=
  [("inline", .inline), ("linked", .linked)]

/-- Takes in a prelude mode as a whole where it may nest this deep. -/
def PreludeMode.within? (nesting : Nat) (json : Json) : Option PreludeMode := do
  if json.sound nesting then
    let (kind, content) ← json.tagged? "mode" PreludeMode.kinds false
    match kind with
    | .inline => (content.fields? []).map fun _ => .inline
    | .linked =>
        match ← content.fields? ["binding"] with
        | [binding] => return .linked (← required? text? binding)
        | _ => none
  else none

def signatureMembers (funcs : NameMap Signature) : List (String × Json) :=
  funcs.map fun (name, signature) => (name, signature.toJson)

/-- Reads a table of signatures where it may nest this deep; of repeated names the last one
stays. -/
def signatures? (nesting : Nat) (json : Json) :
    Option { funcs : NameMap Signature // NameMap.Ordered funcs } :=
  (entries? (Signature.within? (nesting - 1)) json).map fun entries =>
    ⟨NameMap.ofList entries, NameMap.ordered_insert_all entries .nil⟩

namespace Options

def toJson (options : Options) : Json :=
  .object [("funcs", .object (signatureMembers options.funcs)),
    ("entry", .ofOption .string options.entry), ("prelude", options.prelude.toJson)]

def ofJson? (json : Json) : Option Options := do
  match ← json.fields? ["funcs", "entry", "prelude"] with
  | [funcs, entry, prelude] =>
      let ⟨table, ordered⟩ ← defaulted? ⟨[], .nil⟩ (signatures? (nestingLimit - 1)) funcs
      return ⟨table, ordered, ← nullable? text? entry,
        ← defaulted? .inline (PreludeMode.within? (nestingLimit - 1)) prelude⟩
  | _ => none

def load (text : String) : Except LoadError Options :=
  loadDocument ofJson? text

def functionTypes (options : Options) : Except ExtractError (List (String × FunctionType)) :=
  TemplateScript.functionTypes options.funcs

end Options

end TemplateScript
