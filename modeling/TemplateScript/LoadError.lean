import TemplateScript.Json.Reader
import TemplateScript.Text.Location
import TemplateScript.Text.Quoted

/-!
Loading documents, and what can go wrong with it.
-/
namespace TemplateScript

inductive LoadError
  /-- The text is no document of the wanted kind. -/
  | malformed
  | positionOutOfRange (tree : String) (node : String) (pos : Offset) (length : Nat)
deriving DecidableEq

/-- The wording of a load error; what is wrong with a malformed document is not said. -/
def LoadError.message? : LoadError → Option String
  | .malformed => none
  | .positionOutOfRange tree node pos length =>
      some ("Integrity Error: " ++ node ++ " at offset " ++ toString pos.toNat ++
        " lies outside the " ++ toString length ++ "-byte text of " ++ quoted tree ++ ".")

def acceptDocument {α : Type} (read : Json → Option α) (json : Json) : Except LoadError α :=
  match read json with
  | some value => .ok value
  | none => .error .malformed

def loadDocument {α : Type} (read : Json → Option α) (text : String) : Except LoadError α :=
  match Json.parse? text with
  | some json => acceptDocument read json
  | none => .error .malformed

end TemplateScript
