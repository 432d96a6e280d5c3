import TemplateScript.Ty.Basic

/-!
What can be wrong with the use of a value, how it is worded, and the two uses that a type decides
on its own: reading a field and ranging over the elements.
-/
namespace TemplateScript

inductive Unsupported
  | emptyCommand
  | emptyPipeline
  | emptyVariable
  | multipleTargets
  | rangeTargets
  | assignmentInTest
  | parenthesizedDeclaration
  | target (ident : List String)
  | malformedNumber (literal : String)
deriving DecidableEq

def Unsupported.message : Unsupported → String
  | .emptyCommand => "empty command"
  | .emptyPipeline => "empty pipeline"
  | .emptyVariable => "empty variable"
  | .multipleTargets => "multiple declaration targets"
  | .rangeTargets => "range declares at most two variables"
  | .assignmentInTest => "assignment in a block test"
  | .parenthesizedDeclaration => "declaration inside a parenthesized pipeline"
  | .target ident => "cannot declare " ++ ".".intercalate ident
  | .malformedNumber literal => "malformed number " ++ literal

inductive TypeError
  | undefinedVariable (name : String) (candidates : List String)
  | noSuchField (subject : Ty) (field : String)
  | notIterable (subject : Ty)
  /-- The table of functions cannot be ranged over. -/
  | globalsNotIterable
  | notCallable (name : String) (subject : Ty)
  | voidInExpression (name : String)
  | unsupported (cause : Unsupported)
  | assignmentMismatch (name : String) (declared : Ty) (assigned : Ty)
  | undefinedTemplate (name : String)
deriving DecidableEq

def TypeError.message : TypeError → String
  | .undefinedVariable name candidates =>
      "undefined variable " ++ name ++ " (candidates: " ++ ", ".intercalate candidates ++ ")"
  | .noSuchField subject field => subject.text ++ " has no field " ++ quoted field
  | .notIterable subject => subject.text ++ " is not iterable"
  | .globalsNotIterable => "global object is not iterable"
  | .notCallable name subject => name ++ " has type " ++ subject.text ++ " and is not callable"
  | .voidInExpression name => "function " ++ name ++ " returns no value"
  | .unsupported cause => "unsupported: " ++ cause.message
  | .assignmentMismatch name declared assigned =>
      "cannot assign " ++ assigned.text ++ " to " ++ name ++ " of type " ++ declared.text
  | .undefinedTemplate name => "no template named " ++ quoted name

namespace Ty

def fieldNamed (name : String) : Ty → Except TypeError (String × Ty)
  | .object fields labels =>
      match NameMap.get? name fields with
      | some ty => .ok (label labels name, ty)
      | none => .error (.noSuchField (.object fields labels) name)
  | other => .error (.noSuchField other name)

/-- The type of the elements when ranging over a value. -/
def iterate : Ty → Except TypeError Ty
  | .array element => .ok element
  | other => .error (.notIterable other)

end Ty

end TemplateScript
