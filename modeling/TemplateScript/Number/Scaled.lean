import TemplateScript.Number.Decimal

/-!
The range of numbers in documents.

A document keeps as many digits of a number as fit into 64 bits and scales them by a power of ten.
The double of the number is the product of two doubles, the one nearest to the digits and the one
nearest to the power. Near the end of the range both roundings count: a number is in range when
that product is finite, which the nearest double of the number alone does not decide.
-/
namespace TemplateScript

structure Scaled where
  significand : Nat
  exponent : Int
deriving DecidableEq, Repr

namespace Scaled

def significandLimit : Nat := Nat.pow 2 64

/-- Appends digits to a significand as long as they fit, and gives the digits that are left. -/
def append (significand : Nat) : List Char → Nat × List Char
  | [] => (significand, [])
  | c :: rest =>
      let longer := 10 * significand + Decimal.digitValue c
      if longer < significandLimit then append longer rest else (significand, c :: rest)

/-- Digits left over before the point raise the power of ten, and those taken after it lower it.
Digits after the point are tried again when some before it were left over. -/
def ofParts (parts : Decimal.Parts) : Scaled :=
  let (whole, wholeLeft) := append 0 parts.whole
  let (significand, fractionLeft) := append whole parts.fraction
  ⟨significand,
    parts.power + wholeLeft.length + fractionLeft.length - parts.fraction.length⟩

def greatestPower : Int := 308

def inRange (number : Scaled) : Bool :=
  number.significand = 0 || number.exponent < 0 ||
    (number.exponent ≤ greatestPower &&
      ((Double.ofNat number.significand).mul
        (Double.ofNat (Nat.pow 10 number.exponent.toNat))).isFinite)

end Scaled

end TemplateScript
