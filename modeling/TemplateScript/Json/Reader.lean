import TemplateScript.Json.Basic
import TemplateScript.Number.Decimal
import TemplateScript.Text.Units

/-!
Reading JSON texts.

The grammar is the strict one: no byte order mark, no comments, no leading zeros, no raw control
characters in strings. Nesting has no limit here. A surrogate escape outside of a pair is no error
either, but makes what it stands in unreadable. A reader takes the characters at hand and gives
what it read together with the rest.
-/
namespace TemplateScript.Json

def isBlank (c : Char) : Bool :=
  c = ' ' || c = '\n' || c = '\t' || c = '\r'

def skipBlank (text : List Char) : List Char :=
  text.dropWhile isBlank

def shortEscape? (c : Char) : Option Char :=
  if c = '"' then some '"'
  else if c = '\\' then some '\\'
  else if c = '/' then some '/'
  else if c = 'b' then some '\x08'
  else if c = 'f' then some '\x0c'
  else if c = 'n' then some '\n'
  else if c = 'r' then some '\r'
  else if c = 't' then some '\t'
  else none

/-- The units of the inside of a string, up to its closing quote. -/
def readString : List Char → Option (Units × List Char)
  | [] => none
  | '"' :: rest => some ([], rest)
  | '\\' :: 'u' :: a :: b :: c :: d :: rest =>
      match Digits.value? 16 [a, b, c, d] with
      | none => none
      | some unit => (readString rest).map fun (text, rest) => (UInt16.ofNat unit :: text, rest)
  | '\\' :: escape :: rest =>
      match shortEscape? escape with
      | none => none
      | some c => (readString rest).map fun (text, rest) => (Units.unit c :: text, rest)
  | c :: rest =>
      if c.toNat < 0x20 || c = '\\' then none
      else (readString rest).map fun (text, rest) => (Units.ofChar c ++ text, rest)

def ofText (text : Units) : Json :=
  match Units.toString? text with
  | some characters => .string characters
  | none => .unreadable

/-- An object, unless one of its names has no characters. -/
def ofMembers (members : List (Units × Json)) : Json :=
  match members.mapM fun (name, value) => (Units.toString? name).map fun text => (text, value) with
  | some members => .object members
  | none => .unreadable

def readDigits (text : List Char) : Option (List Char × List Char) :=
  match text.takeWhile Char.isDigit with
  | [] => none
  | digits => some (digits, text.dropWhile Char.isDigit)

def readWhole : List Char → Option (List Char × List Char)
  | '0' :: rest => some (['0'], rest)
  | text => readDigits text

def readFraction : List Char → Option (List Char × List Char)
  | '.' :: rest => (readDigits rest).map fun (digits, rest) => ('.' :: digits, rest)
  | rest => some ([], rest)

def readPowerDigits (mark : List Char) (text : List Char) : Option (List Char × List Char) :=
  (readDigits text).map fun (digits, rest) => (mark ++ digits, rest)

def readPower : List Char → Option (List Char × List Char)
  | [] => some ([], [])
  | mark :: rest =>
      if mark = 'e' || mark = 'E' then
        match rest with
        | '+' :: rest => readPowerDigits [mark, '+'] rest
        | '-' :: rest => readPowerDigits [mark, '-'] rest
        | rest => readPowerDigits [mark] rest
      else some ([], mark :: rest)

def readUnsigned (text : List Char) : Option (List Char × List Char) := do
  let (whole, rest) ← readWhole text
  let (fraction, rest) ← readFraction rest
  let (power, rest) ← readPower rest
  return (whole ++ fraction ++ power, rest)

def readNumber : List Char → Option (List Char × List Char)
  | '-' :: rest => (readUnsigned rest).map fun (digits, rest) => ('-' :: digits, rest)
  | text => readUnsigned text

mutual

/-- A value after any blanks. The first argument bounds the nesting of calls. -/
def readValue : Nat → List Char → Option (Json × List Char)
  | 0, _ => none
  | fuel + 1, text =>
      match skipBlank text with
      | 'n' :: 'u' :: 'l' :: 'l' :: rest => some (.null, rest)
      | 't' :: 'r' :: 'u' :: 'e' :: rest => some (.bool true, rest)
      | 'f' :: 'a' :: 'l' :: 's' :: 'e' :: rest => some (.bool false, rest)
      | '"' :: rest =>
          (readString rest).map fun (text, rest) => (ofText text, rest)
      | '[' :: rest =>
          match skipBlank rest with
          | ']' :: rest => some (.array [], rest)
          | rest => (readItems fuel rest).map fun (items, rest) => (.array items, rest)
      | '\x7b' :: rest =>
          match skipBlank rest with
          | '\x7d' :: rest => some (.object [], rest)
          | rest => (readMembers fuel rest).map fun (members, rest) => (ofMembers members, rest)
      | rest => (readNumber rest).map fun (lexeme, rest) => (.number (String.ofList lexeme), rest)

def readItems : Nat → List Char → Option (List Json × List Char)
  | 0, _ => none
  | fuel + 1, text => do
      let (item, rest) ← readValue fuel text
      match skipBlank rest with
      | ']' :: rest => some ([item], rest)
      | ',' :: rest => (readItems fuel rest).map fun (items, rest) => (item :: items, rest)
      | _ => none

def readMembers : Nat → List Char → Option (List (Units × Json) × List Char)
  | 0, _ => none
  | fuel + 1, text =>
      match skipBlank text with
      | '"' :: rest => do
          let (name, rest) ← readString rest
          match skipBlank rest with
          | ':' :: rest => do
              let (value, rest) ← readValue fuel rest
              match skipBlank rest with
              | '\x7d' :: rest => some ([(name, value)], rest)
              | ',' :: rest =>
                  (readMembers fuel rest).map fun (members, rest) =>
                    ((name, value) :: members, rest)
              | _ => none
          | _ => none
      | _ => none

end

/-- A whole text holding one value. Every second call takes a character, which bounds the calls. -/
def parse? (text : String) : Option Json := do
  let characters := text.toList
  let (value, rest) ← readValue (2 * characters.length + 2) characters
  if (skipBlank rest).isEmpty then some value else none

end TemplateScript.Json
