/-!
Text as 16-bit code units.

The script language counts, cuts and compares its strings by units. The characters from U+10000 on
are written in two halves, the surrogates, and a string may hold half of such a pair. Such a text
has no characters, so it cannot be kept as a string of characters.
-/
namespace TemplateScript.Surrogate

def isHigh (unit : Nat) : Bool :=
  0xd800 ≤ unit && unit ≤ 0xdbff

def isLow (unit : Nat) : Bool :=
  0xdc00 ≤ unit && unit ≤ 0xdfff

/-- The character that a high and a low half stand for together. -/
def pair (high low : Nat) : Char :=
  Char.ofNat (0x10000 + (high - 0xd800) * 1024 + (low - 0xdc00))

end TemplateScript.Surrogate

namespace TemplateScript

abbrev Units := List UInt16

namespace Units

/-- The unit of a character below U+10000. -/
def unit (c : Char) : UInt16 :=
  UInt16.ofNat c.toNat

def ofChar (c : Char) : Units :=
  if c.toNat < 0x10000 then [unit c]
  else
    let offset := c.toNat - 0x10000
    [UInt16.ofNat (0xd800 + offset / 1024), UInt16.ofNat (0xdc00 + offset % 1024)]

def ofChars (text : List Char) : Units :=
  text.flatMap ofChar

def isHigh (u : UInt16) : Bool :=
  Surrogate.isHigh u.toNat

def isLow (u : UInt16) : Bool :=
  Surrogate.isLow u.toNat

/-- The characters of a text, if every surrogate has its other half. -/
def toChars? : Units → Option (List Char)
  | [] => some []
  | u :: rest =>
      if isHigh u then
        match rest with
        | [] => none
        | low :: rest =>
            if isLow low then (toChars? rest).map (Surrogate.pair u.toNat low.toNat :: ·) else none
      else if isLow u then none
      else (toChars? rest).map (Char.ofNat u.toNat :: ·)

def toString? (text : Units) : Option String :=
  (toChars? text).map String.ofList

def isDigit (u : UInt16) : Bool :=
  unit '0' ≤ u && u ≤ unit '9'

def isUpper (u : UInt16) : Bool :=
  unit 'A' ≤ u && u ≤ unit 'Z'

def isLower (u : UInt16) : Bool :=
  unit 'a' ≤ u && u ≤ unit 'z'

def isLetter (u : UInt16) : Bool :=
  isUpper u || isLower u

/-- Capital letters of ASCII for small ones; all else stays. -/
def toUpper (u : UInt16) : UInt16 :=
  if isLower u then u - 32 else u

/-- Small letters of ASCII for capital ones; all else stays. -/
def toLower (u : UInt16) : UInt16 :=
  if isUpper u then u + 32 else u

/-- Whether a unit is one of the given characters below U+10000. -/
def isOneOf (characters : List Char) (u : UInt16) : Bool :=
  (characters.map unit).contains u

/-- Order by units, as in a dictionary. -/
def less : Units → Units → Bool
  | _, [] => false
  | [], _ :: _ => true
  | u :: rest, v :: rest' => u < v || (u = v && less rest rest')

def join (separator : Units) : List Units → Units
  | [] => []
  | [last] => last
  | first :: second :: rest => first ++ separator ++ join separator (second :: rest)

def hexDigit (digit : Nat) : UInt16 :=
  unit (Nat.digitChar (digit % 16))

def hexPair (code : Nat) : Units :=
  [hexDigit (code / 16), hexDigit code]

def hexQuad (code : Nat) : Units :=
  [hexDigit (code / 4096), hexDigit (code / 256), hexDigit (code / 16), hexDigit code]

end Units

def units (text : String) : Units :=
  Units.ofChars text.toList

end TemplateScript
