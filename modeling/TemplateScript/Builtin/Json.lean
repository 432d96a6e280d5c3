import TemplateScript.Builtin.Value

/-!
JSON texts of values.

Functions and missing values have no JSON text: they are left out of objects and become `null` in
arrays. So does an object with a function `toJSON`, which is called for the text and gives nothing
back. Numbers that are not finite become `null` too. Half of a surrogate pair is escaped.
-/
namespace TemplateScript.Value

def jsonEscape (u : UInt16) : Units :=
  if u = 0x22 then units "\\\""
  else if u = 0x5c then units "\\\\"
  else if u = 0x08 then units "\\b"
  else if u = 0x0c then units "\\f"
  else if u = 0x0a then units "\\n"
  else if u = 0x0d then units "\\r"
  else if u = 0x09 then units "\\t"
  else if u < 0x20 then units "\\u" ++ Units.hexQuad u.toNat
  else [u]

def unpaired (u : UInt16) : Units :=
  units "\\u" ++ Units.hexQuad u.toNat

/-- The inside of a string; pairs of surrogates stay and single ones are escaped. -/
def jsonInside : Units → Units
  | [] => []
  | u :: rest =>
      if Units.isHigh u then
        match rest with
        | [] => unpaired u
        | low :: rest =>
            if Units.isLow low then u :: low :: jsonInside rest
            else unpaired u ++ jsonInside (low :: rest)
      else if Units.isLow u then unpaired u ++ jsonInside rest
      else jsonEscape u ++ jsonInside rest

def jsonString (text : Units) : Units :=
  units "\"" ++ jsonInside text ++ units "\""

mutual

def json? : Value → Option Units
  | .undefined | .function => none
  | .null => some (units "null")
  | .bool value => some (boolText value)
  | .number value => some (if value.isFinite then numberText value else units "null")
  | .string text => some (jsonString text)
  | .array items =>
      some (units "[" ++ Units.join (units ",") (jsonItems items) ++ units "]")
  | .object members =>
      if method "toJSON" members = .own then none
      else some (units "\x7b" ++ Units.join (units ",") (jsonMembers members) ++ units "\x7d")

def jsonItems : List Value → List Units
  | [] => []
  | item :: rest => (item.json?.getD (units "null")) :: jsonItems rest

def jsonMembers : List (Units × Value) → List Units
  | [] => []
  | (name, value) :: rest =>
      match value.json? with
      | none => jsonMembers rest
      | some text => (jsonString name ++ units ":" ++ text) :: jsonMembers rest

end

end TemplateScript.Value
