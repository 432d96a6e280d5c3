import TemplateScript.Number.Decimal

/-!
The fewest decimal digits that read back as a given double.

For one digit, two digits and so on, the two neighbours of the value on that decimal grid are
tested against the interval of numbers that round to it. The first grid with a neighbour inside
wins, and of two neighbours the nearer.
-/
namespace TemplateScript.Shortest

/-- Which of two equally near decimals is written. -/
inductive Tie
  | up
  | even
deriving DecidableEq, Repr

/-- A positive finite double with its rounding interval, as numerators over one denominator. -/
structure Interval where
  low : Nat
  value : Nat
  high : Nat
  den : Nat
  closed : Bool

/-- The numbers that round to the given double reach half a gap to each side. The gap below a
power of two is half as wide, and the ends belong to even significands. -/
def interval (significand : Nat) (exponent : Int) : Interval :=
  let below :=
    if significand = Double.fractionSize ∧ Double.leastExponent < exponent then 1 else 2
  let scale := Nat.pow 2 (exponent - 2).toNat
  { low := (4 * significand - below) * scale
    value := 4 * significand * scale
    high := (4 * significand + 2) * scale
    den := Nat.pow 2 (2 - exponent).toNat
    closed := significand % 2 = 0 }

/-- Exponent of the power of ten at or just below a positive ratio. -/
def magnitude (num den : Nat) : Int :=
  if den ≤ num then (Decimal.width (num / den) : Int) - 1
  else -(Decimal.width ((den - 1) / num) : Int)

/-- The decimal with `exponent` as its last place that stands for the value, if there is one. -/
def onGrid? (tie : Tie) (i : Interval) (exponent : Int) : Option Decimal :=
  let up := Nat.pow 10 (-exponent).toNat
  let den := i.den * Nat.pow 10 exponent.toNat
  let low := i.low * up
  let value := i.value * up
  let high := i.high * up
  let floor := value / den
  let ceil := floor + 1
  let floorFits := low < floor * den ∨ (i.closed ∧ low = floor * den)
  let ceilFits := ceil * den < high ∨ (i.closed ∧ ceil * den = high)
  let ceilNearer := ceil * den - value < value - floor * den ∨
    (ceil * den - value = value - floor * den ∧ (tie = .up ∨ ceil % 2 = 0))
  if floorFits ∧ ceilFits then some ⟨if ceilNearer then ceil else floor, exponent⟩
  else if floorFits then some ⟨floor, exponent⟩
  else if ceilFits then some ⟨ceil, exponent⟩
  else none

/-- Seventeen digits tell any two doubles apart. -/
def mostDigits : Nat := 17

def trimZeros : Nat → Decimal → Decimal
  | 0, d => d
  | fuel + 1, d =>
      if d.digits ≠ 0 ∧ d.digits % 10 = 0 then trimZeros fuel ⟨d.digits / 10, d.exponent + 1⟩ else d

def decimal (tie : Tie) (significand : Nat) (exponent : Int) : Decimal :=
  let i := interval significand exponent
  let top := magnitude i.value i.den
  let found := (List.range mostDigits).findSome? fun (count : Nat) => onGrid? tie i (top - count)
  trimZeros mostDigits (found.getD ⟨0, 0⟩)

end TemplateScript.Shortest
