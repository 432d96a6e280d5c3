import TemplateScript.Number.Decimal

/-!
Number constants of templates.

A constant is a decimal literal, an integer with a base mark or a leading zero for octal, or a
character between single quotes. Underscores may stand anywhere outside a character constant.
-/
namespace TemplateScript.Constant

/-- Integers must fit 64 bits with a sign. A sign may follow the base mark. -/
def integer? (base : Nat) (body : List Char) : Option Int := do
  let (negative, digits) := Decimal.readSign body
  let n ← Digits.value? base digits
  if n < Nat.pow 2 63 ∨ (negative ∧ n = Nat.pow 2 63) then some (Decimal.signed negative n)
  else none

/-- A decimal literal, again with a sign of its own, that has a finite double. -/
def decimal? (body : List Char) : Option Double := do
  let (negative, literal) := Decimal.readSign body
  let d := (← Decimal.read? literal).toDouble negative
  if d.isFinite then some d else none

def unsigned? (body : List Char) : Option Double :=
  match body with
  | '0' :: 'x' :: rest | '0' :: 'X' :: rest => (integer? 16 rest).map Double.ofInt
  | '0' :: 'o' :: rest | '0' :: 'O' :: rest => (integer? 8 rest).map Double.ofInt
  | '0' :: 'b' :: rest | '0' :: 'B' :: rest => (integer? 2 rest).map Double.ofInt
  | '0' :: second :: rest =>
      if (second :: rest).all Char.isDigit then (integer? 8 (second :: rest)).map Double.ofInt
      else decimal? body
  | _ => decimal? body

def isScalar (code : Nat) : Bool :=
  code < 0xd800 || (0xdfff < code && code ≤ 0x10ffff)

def hexCode? (count : Nat) (digits : List Char) : Option Nat :=
  if digits.length = count then Digits.value? 16 digits else none

def octalCode? (digits : List Char) : Option Nat :=
  if digits.length = 3 then
    (Digits.value? 8 digits).bind fun code => if code ≤ 0xff then some code else none
  else none

def escapeCode? : List Char → Option Nat
  | ['a'] => some 0x07
  | ['b'] => some 0x08
  | ['f'] => some 0x0c
  | ['n'] => some 0x0a
  | ['r'] => some 0x0d
  | ['t'] => some 0x09
  | ['v'] => some 0x0b
  | ['\\'] => some 0x5c
  | ['\x27'] => some 0x27
  | 'x' :: digits => hexCode? 2 digits
  | 'u' :: digits => hexCode? 4 digits
  | 'U' :: digits => hexCode? 8 digits
  | digits => octalCode? digits

/-- Code point of the inside of a character constant. -/
def character? : List Char → Option Nat
  | '\\' :: escape =>
      (escapeCode? escape).bind fun code => if isScalar code then some code else none
  | [c] => some c.toNat
  | _ => none

def inQuotes? : List Char → Option (List Char)
  | '\x27' :: rest => if rest.getLast? = some '\x27' then some rest.dropLast else none
  | _ => none

def withSign? (text : List Char) : Option Double :=
  match text with
  | '-' :: body => (unsigned? body).map Double.neg
  | '+' :: body => unsigned? body
  | body => unsigned? body

def read? (text : String) : Option Double :=
  match inQuotes? text.toList with
  | some inner => (character? inner).map Double.ofNat
  | none => withSign? (text.toList.filter (· ≠ '_'))

end TemplateScript.Constant
