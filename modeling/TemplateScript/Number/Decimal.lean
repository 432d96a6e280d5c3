import TemplateScript.Number.Double

/-!
Runs of digits in bases up to sixteen, and decimal literals: digits with an optional point and an
optional power of ten, and their nearest double.
-/
namespace TemplateScript.Digits

def digit? (base : Nat) (c : Char) : Option Nat :=
  let digit :=
    if c.isDigit then c.toNat - '0'.toNat
    else if 'a' ≤ c ∧ c ≤ 'f' then c.toNat - 'a'.toNat + 10
    else if 'A' ≤ c ∧ c ≤ 'F' then c.toNat - 'A'.toNat + 10
    else base
  if digit < base then some digit else none

/-- The value of digits that follow a number. -/
def continue? (base : Nat) (total : Nat) : List Char → Option Nat
  | [] => some total
  | c :: rest => (digit? base c).bind fun digit => continue? base (base * total + digit) rest

def value? (base : Nat) (digits : List Char) : Option Nat :=
  if digits.isEmpty then none else continue? base 0 digits

end TemplateScript.Digits

namespace TemplateScript

/-- The number `digits` times ten to `exponent`. -/
structure Decimal where
  digits : Nat
  exponent : Int
deriving DecidableEq, Repr

namespace Decimal

def digitValue (c : Char) : Nat :=
  c.toNat - '0'.toNat

def value (digits : List Char) : Nat :=
  digits.foldl (fun total c => 10 * total + digitValue c) 0

def readSign : List Char → Bool × List Char
  | '-' :: rest => (true, rest)
  | '+' :: rest => (false, rest)
  | rest => (false, rest)

def signed (negative : Bool) (n : Nat) : Int :=
  if negative then -n else n

/-- What follows the mantissa: nothing, or a power of ten. -/
def readExponent? : List Char → Option Int
  | [] => some 0
  | mark :: rest =>
      if mark = 'e' ∨ mark = 'E' then
        let (negative, digits) := readSign rest
        if digits.isEmpty || !digits.all Char.isDigit then none
        else some (signed negative (value digits))
      else none

/-- A literal taken apart: the digits on both sides of the point, and the power of ten. -/
structure Parts where
  whole : List Char
  fraction : List Char
  power : Int
deriving DecidableEq, Repr

/-- Takes apart a whole unsigned literal. A digit must stand on at least one side of the point. -/
def parts? (literal : List Char) : Option Parts :=
  let whole := literal.takeWhile Char.isDigit
  let rest := literal.dropWhile Char.isDigit
  let (fraction, rest) := match rest with
    | '.' :: after => (after.takeWhile Char.isDigit, after.dropWhile Char.isDigit)
    | other => ([], other)
  if whole.isEmpty && fraction.isEmpty then none
  else (readExponent? rest).map fun power => ⟨whole, fraction, power⟩

def ofParts (parts : Parts) : Decimal :=
  ⟨value (parts.whole ++ parts.fraction), parts.power - parts.fraction.length⟩

def read? (literal : List Char) : Option Decimal :=
  (parts? literal).map ofParts

/-- Number of digits without leading zeros. -/
def width (n : Nat) : Nat :=
  if n = 0 then 0 else (Nat.toDigits 10 n).length

def greatestMagnitude : Int := 309

def leastMagnitude : Int := -330

/-- The nearest double, infinite when the decimal is too large. The two bounds keep the powers
of ten small and change no result. -/
def toDouble (negative : Bool) (d : Decimal) : Double :=
  let magnitude := width d.digits + d.exponent
  if d.digits = 0 ∨ magnitude < leastMagnitude then Double.zero negative
  else if greatestMagnitude < magnitude then Double.infinity negative
  else
    Double.ofRatio negative (d.digits * Nat.pow 10 d.exponent.toNat)
      (Nat.pow 10 (-d.exponent).toNat)

end Decimal

end TemplateScript
