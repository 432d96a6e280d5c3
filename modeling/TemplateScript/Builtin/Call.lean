import TemplateScript.Builtin.Printf
import TemplateScript.Scope.Builtins
import TemplateScript.Text.NameMap

/-!
The builtin functions by name, the table that templates call them from, and rendering a template
by name.
-/
namespace TemplateScript.Builtin

/-- The argument at a position; missing arguments are undefined. -/
def argument (index : Nat) (args : List Value) : Value :=
  args[index]?.getD .undefined

/-- Whether the first argument equals one of the others. -/
def eq : List Value → Bool
  | [] => false
  | first :: rest => rest.any fun other => first.identical other

/-- Length in units, elements or members; a missing value has none, other values have no length. -/
def len : Value → Value
  | .undefined | .null => .number (Double.ofNat 0)
  | .string text => .number (Double.ofNat text.length)
  | .array items => .number (Double.ofNat items.length)
  | .object members => .number (Double.ofNat members.length)
  | .function => .number (Double.ofNat 0)
  | .bool _ | .number _ => .undefined

def json (value : Value) : Value :=
  match value.json? with
  | some text => .string text
  | none => .undefined

def encoded : Option Units → Except Fault Value
  | some text => .ok (.string text)
  | none => .error .malformedUri

/-- Calls a builtin function; `none` when there is none of that name. -/
def call? (name : String) (args : List Value) : Option (Except Fault Value) :=
  let first := argument 0 args
  let second := argument 1 args
  let text := Value.stringify args
  match name with
  | "eq" => some (.ok (.bool (eq args)))
  | "ne" => some (.ok (.bool (!first.identical second)))
  | "lt" => some ((first.lt second).map .bool)
  | "le" => some ((first.le second).map .bool)
  | "gt" => some ((first.gt second).map .bool)
  | "ge" => some ((first.ge second).map .bool)
  | "not" => some (.ok (.bool (!first.truth)))
  | "len" => some (.ok (len first))
  | "print" => some (.ok (.string (Value.printAll args)))
  | "println" => some (.ok (.string (Value.printLine args)))
  | "printf" => some ((printf args).map .string)
  | "html" => some (.ok (.string (Escape.html text)))
  | "js" => some (.ok (.string (Escape.js text)))
  | "urlquery" => some (encoded (Url.query? text))
  | "json" => some (.ok (json first))
  | "_html_template_htmlescaper" | "_html_template_attrescaper" | "_html_template_rcdataescaper" =>
      some (.ok (.string (Escape.htmlQuoted text)))
  | "_html_template_nospaceescaper" => some (.ok (.string (Escape.htmlNoSpace text)))
  | "_html_template_commentescaper" => some (.ok (.string []))
  | "_html_template_urlescaper" => some (.ok (.string (Url.escape text)))
  | "_html_template_urlnormalizer" => some (.ok (.string (Url.normalize text)))
  | "_html_template_urlfilter" => some (.ok (.string (Url.filter text)))
  | "_html_template_jsvalescaper" => some (.ok (.string (Escape.jsValue args)))
  | "_html_template_jsstrescaper" => some (.ok (.string (Escape.jsString text)))
  | "_html_template_jsregexpescaper" => some (.ok (.string (Escape.jsPattern text)))
  | _ => none

inductive Origin
  | builtin
  | user
deriving DecidableEq

/-- Assigning to this name sets the parent of a table and adds nothing to it. -/
def parentName : String := "__proto__"

/-- The table that templates see: the builtins, and over them the functions of the user. -/
def table (funcs : List String) : NameMap Origin :=
  NameMap.insertAll ((funcs.filter (· ≠ parentName)).map fun name => (name, .user))
    (NameMap.ofList (Builtins.names.map fun name => (name, .builtin)))

def listing (funcs : List String) : List (String × Origin) :=
  (table funcs).mergeSort fun entry other => !Units.less (units other.1) (units entry.1)

/-- Renders a template of a registry by its name. The registry is a table too, so the name of its
parent is never found. -/
def render (registry : List (Units × (Value → Units))) (name : Units) (context : Value) :
    Except Fault Units :=
  match (registry.filter (·.1 ≠ units parentName)).lookup name with
  | some template => .ok (template context)
  | none => .error (.noSuchTemplate name)

end TemplateScript.Builtin
