/-!
Double-quoted literals, and member access in generated script.

One escaping serves JSON texts. The other adds the characters that could end a script element or
a line of script, so a literal may stand inside a page. Both work one character at a time. A member
is accessed behind a dot where its name is a plain identifier, and by a literal in brackets
everywhere else.
-/
namespace TemplateScript.Literal

def hexDigit (digit : Nat) : Char :=
  Nat.digitChar (digit % 16)

/-- A code below 65536 as a backslash, `u` and four lower-case hexadecimal digits. -/
def unicodeEscape (code : Nat) : List Char :=
  ['\\', 'u', hexDigit (code / 4096), hexDigit (code / 256), hexDigit (code / 16), hexDigit code]

def escapeJson (c : Char) : List Char :=
  if c = '"' then ['\\', '"']
  else if c = '\\' then ['\\', '\\']
  else if c = '\x08' then ['\\', 'b']
  else if c = '\x0c' then ['\\', 'f']
  else if c = '\n' then ['\\', 'n']
  else if c = '\r' then ['\\', 'r']
  else if c = '\t' then ['\\', 't']
  else if c.toNat < 0x20 then unicodeEscape c.toNat
  else [c]

/-- Characters that JSON leaves alone but a page or a script does not. -/
def scriptSpecial : List Char :=
  ['<', '>', '&', '\u2028', '\u2029']

def escapeScript (c : Char) : List Char :=
  if c ∈ scriptSpecial then unicodeEscape c.toNat else escapeJson c

def enclose (escape : Char → List Char) (text : String) : String :=
  String.ofList ('"' :: (text.toList.flatMap escape ++ ['"']))

def json (text : String) : String :=
  enclose escapeJson text

/-- A script literal that is also safe inside a script element of a page. -/
def script (text : String) : String :=
  enclose escapeScript text

end TemplateScript.Literal

namespace TemplateScript

namespace Identifier

def isStart (c : Char) : Bool :=
  c.isAlpha || c = '_' || c = '$'

def isPart (c : Char) : Bool :=
  isStart c || c.isDigit

def isPlain (name : String) : Bool :=
  match name.toList with
  | [] => false
  | first :: rest => isStart first && rest.all isPart

end Identifier

def memberAccess (name : String) : String :=
  if Identifier.isPlain name then "." ++ name
  else "[" ++ Literal.script name ++ "]"

end TemplateScript
