import TemplateScript.Builtin.Json

/-!
Escapers for pages and scripts.

Each escaper looks for the units of a class and writes them by a table, or by a rule where the table
has no entry. It works one unit at a time, never looks at its neighbours, and keeps all other units.
-/
namespace TemplateScript.Escape

abbrev Table := List (UInt16 × Units)

def table (entries : List (Char × String)) : Table :=
  entries.map fun (c, text) => (Units.unit c, units text)

/-- A class of units: single characters, and all from the first to the last of a range. -/
structure Class where
  characters : List Char
  ranges : List (Char × Char)

def Class.has (pattern : Class) (u : UInt16) : Bool :=
  Units.isOneOf pattern.characters u ||
    pattern.ranges.any fun (first, last) => Units.unit first ≤ u && u ≤ Units.unit last

/-- Writes the units of a class by the table, or by the rule where the table has no entry. -/
def replace (pattern : Class) (entries : Table) (otherwise : UInt16 → Units) (text : Units) :
    Units :=
  text.flatMap fun u => if pattern.has u then (entries.lookup u).getD (otherwise u) else [u]

/-- What a table without a rule gives for a unit that it does not have. -/
def missing (_ : UInt16) : Units := Value.undefinedText

/-- What a filter writes in place of something it does not let through. -/
def refused : String := "ZgotmplZ"

def htmlTextClass : Class where
  characters := ['&', '\x27', '<', '>', '"', '\x00']
  ranges := []

def htmlText : Table :=
  table [('&', "&amp;"), ('\x27', "&#39;"), ('<', "&lt;"), ('>', "&gt;"), ('"', "&#34;"),
    ('\x00', "\ufffd")]

def htmlAttributeClass : Class where
  characters := ['\x00', '"', '&', '\x27', '+', '<', '>']
  ranges := []

def htmlAttribute : Table :=
  table [('\x00', "\ufffd"), ('"', "&#34;"), ('&', "&amp;"), ('\x27', "&#39;"), ('+', "&#43;"),
    ('<', "&lt;"), ('>', "&gt;")]

def htmlUnquotedClass : Class where
  characters := ['\x00', '\t', '\n', '\x0b', '\x0c', '\r', ' ', '"', '&', '\x27', '+', '<', '=',
    '>', '\x60']
  ranges := []

def htmlUnquoted : Table :=
  table [('\x00', "&#xfffd;"), ('\t', "&#9;"), ('\n', "&#10;"), ('\x0b', "&#11;"),
    ('\x0c', "&#12;"), ('\r', "&#13;"), (' ', "&#32;"), ('"', "&#34;"), ('&', "&amp;"),
    ('\x27', "&#39;"), ('+', "&#43;"), ('<', "&lt;"), ('=', "&#61;"), ('>', "&gt;"),
    ('\x60', "&#96;")]

def html (text : Units) : Units :=
  replace htmlTextClass htmlText missing text

def htmlQuoted (text : Units) : Units :=
  replace htmlAttributeClass htmlAttribute missing text

/-- An attribute without quotes, which may not be empty. -/
def htmlNoSpace (text : Units) : Units :=
  if text.isEmpty then units refused else replace htmlUnquotedClass htmlUnquoted missing text

def unicodeLower (u : UInt16) : Units :=
  units "\\u" ++ Units.hexQuad u.toNat

def unicodeUpper (u : UInt16) : Units :=
  units "\\u" ++ (Units.hexQuad u.toNat).map Units.toUpper

def scriptTextClass : Class where
  characters := ['\\', '\x27', '"', '<', '>', '&', '=', '\u2028', '\u2029']
  ranges := [('\x00', '\x1f')]

def scriptText : Table :=
  table [('\\', "\\\\"), ('\x27', "\\\x27"), ('"', "\\\""), ('<', "\\u003C"), ('>', "\\u003E"),
    ('&', "\\u0026"), ('=', "\\u003D")]

def scriptStringClass : Class where
  characters := ['"', '&', '\x27', '+', '/', '<', '>', '\\', '\x60', '\u2028', '\u2029']
  ranges := [('\x00', '\x1f')]

def scriptString : Table :=
  table [('\x00', "\\u0000"), ('\t', "\\t"), ('\n', "\\n"), ('\x0b', "\\u000b"), ('\x0c', "\\f"),
    ('\r', "\\r"), ('"', "\\u0022"), ('&', "\\u0026"), ('\x27', "\\u0027"), ('+', "\\u002b"),
    ('/', "\\/"), ('<', "\\u003c"), ('>', "\\u003e"), ('\\', "\\\\"), ('\x60', "\\u0060")]

def scriptPatternClass : Class where
  characters := ['"', '&', '\x27', '+', '/', '<', '>', '\\', '\x60', '\u2028', '\u2029', '$', '(',
    ')', '*', '-', '.', '?', '[', ']', '^', '\x7b', '|', '\x7d']
  ranges := [('\x00', '\x1f')]

def scriptPattern : Table :=
  table [('$', "\\$"), ('(', "\\("), (')', "\\)"), ('*', "\\*"), ('-', "\\-"), ('.', "\\."),
    ('?', "\\?"), ('[', "\\["), (']', "\\]"), ('^', "\\^"), ('\x7b', "\\\x7b"), ('|', "\\|"),
    ('\x7d', "\\\x7d")]

def scriptValueClass : Class where
  characters := ['<', '>', '&', '\u2028', '\u2029']
  ranges := []

def scriptValue : Table :=
  table [('<', "\\u003c"), ('>', "\\u003e"), ('&', "\\u0026"), ('\u2028', "\\u2028"),
    ('\u2029', "\\u2029")]

def js (text : Units) : Units :=
  replace scriptTextClass scriptText unicodeUpper text

def jsString (text : Units) : Units :=
  replace scriptStringClass scriptString unicodeLower text

/-- A regular expression that matches the text itself. -/
def jsPattern (text : Units) : Units :=
  if text.isEmpty then units "(?:)"
  else replace scriptPatternClass (scriptPattern ++ scriptString) unicodeLower text

def isWord (u : UInt16) : Bool :=
  Units.isLetter u || Units.isDigit u || u = Units.unit '_' || u = Units.unit '$'

def startsOrEndsWord (text : Units) : Bool :=
  text.head?.any isWord || text.getLast?.any isWord

/-- A script expression for a value, set apart by blanks where it starts or ends with a word. -/
def jsExpression (value : Value) : Units :=
  match value.json? with
  | none => units " null "
  | some json =>
      let text := replace scriptValueClass scriptValue missing json
      if startsOrEndsWord text then units " " ++ text ++ units " " else text

/-- One value is embedded as it is; several are printed first. -/
def jsValue : List Value → Units
  | [value] => jsExpression value
  | operands => jsExpression (.string (Value.printAll operands))

end TemplateScript.Escape
