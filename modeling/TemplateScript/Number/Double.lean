/-!
Doubles as their 64 bits.

Every operation is exact integer arithmetic on the parts of the word, so nothing here depends on
the machine's floating point. Only what templates need is provided: rounding a ratio to the
nearest double, products, order, and the neighbouring integers.
-/
namespace TemplateScript

structure Double where
  bits : UInt64
deriving DecidableEq, Repr

namespace Double

/-- What a word stands for. A finite value is its significand times two to its exponent. -/
inductive Reading
  | nan
  | infinite (negative : Bool)
  | finite (negative : Bool) (significand : Nat) (exponent : Int)
deriving DecidableEq, Repr

def fractionSize : Nat := Nat.pow 2 52
def exponentSize : Nat := Nat.pow 2 11
def signBit : Nat := Nat.pow 2 63
def leastExponent : Int := -1074

def read (d : Double) : Reading :=
  let word := d.bits.toNat
  let fraction := word % fractionSize
  let biased := word / fractionSize % exponentSize
  let negative : Bool := signBit ≤ word
  if biased = exponentSize - 1 then
    if fraction = 0 then .infinite negative else .nan
  else if biased = 0 then .finite negative fraction leastExponent
  else .finite negative (fractionSize + fraction) (leastExponent + biased - 1)

def ofWord (negative : Bool) (word : Nat) : Double :=
  ⟨UInt64.ofNat (if negative then signBit + word else word)⟩

def infiniteWord : Nat := (exponentSize - 1) * fractionSize

def nan : Double := ofWord false (infiniteWord + fractionSize / 2)

def infinity (negative : Bool) : Double := ofWord negative infiniteWord

def zero (negative : Bool) : Double := ofWord negative 0

/-- The integer nearest to a ratio; a half goes to the even neighbour. -/
def nearestEven (num den : Nat) : Nat :=
  let floor := num / den
  let twice := 2 * (num % den)
  if twice < den then floor
  else if den < twice then floor + 1
  else floor + floor % 2

/-- Exponent of the power of two at or just below a positive ratio. -/
def leadingExponent (num den : Nat) : Int :=
  let estimate : Int := (num.log2 : Int) - den.log2
  if den * Nat.pow 2 estimate.toNat ≤ num * Nat.pow 2 (-estimate).toNat then estimate
  else estimate - 1

/-- The double nearest to a ratio; a half goes to the even significand, and what lies beyond the
largest finite double becomes infinite. -/
def ofRatio (negative : Bool) (num den : Nat) : Double :=
  if num = 0 then zero negative
  else
    let exponent := max leastExponent (leadingExponent num den - 52)
    let significand :=
      nearestEven (num * Nat.pow 2 (-exponent).toNat) (den * Nat.pow 2 exponent.toNat)
    let word := (exponent - leastExponent).toNat * fractionSize + significand
    if infiniteWord ≤ word then infinity negative else ofWord negative word

def ofNat (n : Nat) : Double :=
  ofRatio false n 1

def ofInt (n : Int) : Double :=
  ofRatio (n < 0) n.natAbs 1

/-- The product rounded to the nearest double. Nothing is rounded before. -/
def mul (a b : Double) : Double :=
  match a.read, b.read with
  | .finite n s e, .finite n' s' e' =>
      ofRatio (n != n') (s * s' * Nat.pow 2 (e + e').toNat) (Nat.pow 2 (-(e + e')).toNat)
  | .infinite n, .infinite n' => infinity (n != n')
  | .infinite n, .finite n' s _ | .finite n' s _, .infinite n =>
      if s = 0 then nan else infinity (n != n')
  | .nan, _ | _, .nan => nan

def neg (d : Double) : Double :=
  ⟨d.bits ^^^ UInt64.ofNat signBit⟩

def isNaN (d : Double) : Bool :=
  match d.read with
  | .nan => true
  | _ => false

def isFinite (d : Double) : Bool :=
  match d.read with
  | .finite _ _ _ => true
  | _ => false

def isZero (d : Double) : Bool :=
  match d.read with
  | .finite _ significand _ => significand = 0
  | _ => false

/-- A finite double counted in units of the least positive one. -/
def steps (negative : Bool) (significand : Nat) (exponent : Int) : Int :=
  let magnitude : Int := significand * Nat.pow 2 (exponent - leastExponent).toNat
  if negative then -magnitude else magnitude

def stepsPerOne : Nat := Nat.pow 2 1074

/-- Numeric order; no double compares with NaN. -/
def lt (a b : Double) : Bool :=
  match a.read, b.read with
  | .nan, _ | _, .nan => false
  | .infinite negative, .infinite other => negative && !other
  | .infinite negative, .finite _ _ _ => negative
  | .finite _ _ _, .infinite negative => !negative
  | .finite n s e, .finite n' s' e' => steps n s e < steps n' s' e'

/-- Numeric equality: both zeros are equal, and NaN differs from itself. -/
def same (a b : Double) : Bool :=
  match a.read, b.read with
  | .infinite negative, .infinite other => negative = other
  | .finite n s e, .finite n' s' e' => steps n s e = steps n' s' e'
  | _, _ => false

def le (a b : Double) : Bool :=
  lt a b || same a b

def isNegative (d : Double) : Bool :=
  lt d (zero false)

def floor? (d : Double) : Option Int :=
  match d.read with
  | .finite n s e => some ((steps n s e).fdiv stepsPerOne)
  | _ => none

def truncate? (d : Double) : Option Int :=
  match d.read with
  | .finite n s e => some ((steps n s e).tdiv stepsPerOne)
  | _ => none

end Double

end TemplateScript
