import TemplateScript.Number.Style

/-!
Doubles with a fixed number of places, and whole numbers in base sixteen.
-/
namespace TemplateScript.Double

def nearestUp (num den : Nat) : Nat :=
  (2 * num + den) / (2 * den)

/-- Digits with the point before the last `places` of them. -/
def pointed (places : Nat) (digits : List Char) : List Char :=
  if places = 0 then digits
  else
    let padded := NumberStyle.zeros (places + 1 - digits.length) ++ digits
    padded.take (padded.length - places) ++ '.' :: padded.drop (padded.length - places)

/-- From here on fixed places give way to the usual text. -/
def fixedLimit : Nat := Nat.pow 10 21

/-- The exact value rounded to the given number of places; a half goes away from zero. -/
def fixed (places : Nat) (d : Double) : String :=
  match d.read with
  | .finite negative significand exponent =>
      let magnitude := (steps false significand exponent).toNat
      if fixedLimit * stepsPerOne ≤ magnitude then d.text .script
      else
        let rounded := nearestUp (magnitude * Nat.pow 10 places) stepsPerOne
        NumberStyle.withSign (negative && significand ≠ 0)
          (pointed places (Nat.toDigits 10 rounded))
  | _ => d.text .script

/-- Whole numbers below this are doubles and are written with all their digits. -/
def exactLimit : Nat := Nat.pow 2 53

def wholeText (n : Int) : String :=
  if n.natAbs < exactLimit then NumberStyle.withSign (n < 0) (Nat.toDigits 10 n.natAbs)
  else (ofInt n).text .script

def truncatedText (d : Double) : String :=
  match d.truncate? with
  | some n => wholeText n
  | none => d.text .script

def hexText (d : Double) : String :=
  match d.floor? with
  | some n => NumberStyle.withSign (n < 0) (Nat.toDigits 16 n.natAbs)
  | none => d.text .script

end TemplateScript.Double
