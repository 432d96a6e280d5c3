import TemplateScript.Builtin.Escape

/-!
Texts in addresses.

There are two encoders. One encodes a component, refuses half of a surrogate pair, and serves
queries. The other keeps a given set of units and puts the replacement character for what has no
character; a high half takes the unit after it along.
-/
namespace TemplateScript.Url

def percentByte (byte : Nat) : Units :=
  Units.unit '%' :: (Units.hexPair byte).map Units.toUpper

def percentChar (c : Char) : Units :=
  (String.utf8EncodeChar c).flatMap fun byte => percentByte byte.toNat

def isAlphanumeric (u : UInt16) : Bool :=
  Units.isLetter u || Units.isDigit u

def keptByComponent (u : UInt16) : Bool :=
  isAlphanumeric u || Units.isOneOf ['-', '_', '.', '!', '~', '*', '\x27', '(', ')'] u

/-- Encodes a component; `none` when half of a surrogate pair stands alone. -/
def component? : Units → Option Units
  | [] => some []
  | u :: rest =>
      if keptByComponent u then (component? rest).map (u :: ·)
      else if Units.isHigh u then
        match rest with
        | [] => none
        | low :: rest =>
            if Units.isLow low then
              (component? rest).map (percentChar (Surrogate.pair u.toNat low.toNat) ++ ·)
            else none
      else if Units.isLow u then none
      else (component? rest).map (percentChar (Char.ofNat u.toNat) ++ ·)

/-- Marks that a component keeps but a query does not. -/
def escapeMark (u : UInt16) : Units :=
  if Units.isOneOf ['!', '\x27', '(', ')', '*'] u then percentByte u.toNat else [u]

/-- A plus sign for each encoded space. -/
def plusForSpace : Units → Units
  | [] => []
  | a :: b :: c :: rest =>
      if a = Units.unit '%' ∧ b = Units.unit '2' ∧ c = Units.unit '0' then
        Units.unit '+' :: plusForSpace rest
      else a :: plusForSpace (b :: c :: rest)
  | u :: rest => u :: plusForSpace rest

def query? (text : Units) : Option Units :=
  (component? text).map fun encoded => plusForSpace (encoded.flatMap escapeMark)

def isUpperHex (u : UInt16) : Bool :=
  Units.isDigit u || (Units.unit 'A' ≤ u && u ≤ Units.unit 'F')

/-- The two digits of each byte: those of an escape in small letters, those of any other unit. -/
def unescapeHex : Units → Units
  | [] => []
  | a :: b :: c :: rest =>
      if a = Units.unit '%' ∧ isUpperHex b ∧ isUpperHex c then
        Units.toLower b :: Units.toLower c :: unescapeHex rest
      else Units.hexPair a.toNat ++ unescapeHex (b :: c :: rest)
  | u :: rest => Units.hexPair u.toNat ++ unescapeHex rest

def hexBytes? (text : Units) : Option Units :=
  (component? text).map unescapeHex

def replacement : Units := units "%EF%BF%BD"

/-- Keeps the units of a set and encodes the others. -/
def process (keep : UInt16 → Bool) : Units → Units
  | [] => []
  | u :: rest =>
      if keep u then u :: process keep rest
      else if u < 0x80 then percentByte u.toNat ++ process keep rest
      else if Units.isHigh u then
        match rest with
        | [] => replacement
        | next :: rest =>
            (if Units.isLow next then percentChar (Surrogate.pair u.toNat next.toNat)
            else replacement) ++ process keep rest
      else if Units.isLow u then replacement ++ process keep rest
      else percentChar (Char.ofNat u.toNat) ++ process keep rest

def keptByEscaper (u : UInt16) : Bool :=
  isAlphanumeric u || Units.isOneOf ['-', '.', '_', '~'] u

/-- Normalization keeps all that has a meaning in an address, and escapes that are there. -/
def keptByNormalizer (u : UInt16) : Bool :=
  keptByEscaper u ||
    Units.isOneOf ['!', '#', '$', '&', '*', '+', ',', '/', ':', ';', '=', '?', '@', '[', ']', '%'] u

def escape (text : Units) : Units :=
  process keptByEscaper text

def normalize (text : Units) : Units :=
  process keptByNormalizer text

def safeSchemes : List Units :=
  [units "http", units "https", units "mailto"]

/-- Refuses an address whose scheme could run a script. -/
def filter (text : Units) : Units :=
  let scheme := text.takeWhile (· ≠ Units.unit ':')
  if text.contains (Units.unit ':') && !scheme.contains (Units.unit '/') &&
      !safeSchemes.contains (scheme.map Units.toLower) then
    units ("#" ++ Escape.refused)
  else text

end TemplateScript.Url
