import TemplateScript.Number.Shortest

/-!
Written forms of doubles.

A style says where positional notation ends, which of two equally near decimals is taken, and how
negative zero and the infinite values are spelled. Plain style is used in messages and for number
literals of generated script. Script style is how the script language itself prints a number.
-/
namespace TemplateScript

structure NumberStyle where
  tie : Shortest.Tie
  /-- Decides from the number of digits before the point. -/
  positional : Int → Bool
  negativeZero : String
  infinity : String

namespace NumberStyle

/-- Never an exponent, and negative zero keeps its sign. -/
def plain : NumberStyle where
  tie := .up
  positional := fun _ => true
  negativeZero := "-0"
  infinity := "inf"

/-- An exponent from 21 places on and below six zeros after the point. -/
def script : NumberStyle where
  tie := .even
  positional := fun point => -6 < point && point ≤ 21
  negativeZero := "0"
  infinity := "Infinity"

def zeros (count : Nat) : List Char :=
  List.replicate count '0'

def positionalText (digits : List Char) (point : Int) : List Char :=
  if point ≤ 0 then ['0', '.'] ++ zeros (-point).toNat ++ digits
  else if digits.length ≤ point then digits ++ zeros (point.toNat - digits.length)
  else digits.take point.toNat ++ ['.'] ++ digits.drop point.toNat

def exponentText (digits : List Char) (point : Int) : List Char :=
  let power := point - 1
  let mantissa := match digits with
    | first :: second :: rest => first :: '.' :: second :: rest
    | short => short
  mantissa ++ ['e', if power < 0 then '-' else '+'] ++ Nat.toDigits 10 power.natAbs

def decimalText (style : NumberStyle) (d : Decimal) : List Char :=
  let digits := Nat.toDigits 10 d.digits
  let point := digits.length + d.exponent
  if style.positional point then positionalText digits point else exponentText digits point

def withSign (negative : Bool) (text : List Char) : String :=
  String.ofList (if negative then '-' :: text else text)

end NumberStyle

namespace Double

def text (style : NumberStyle) (d : Double) : String :=
  match d.read with
  | .nan => "NaN"
  | .infinite negative => NumberStyle.withSign negative style.infinity.toList
  | .finite negative significand exponent =>
      if significand = 0 then if negative then style.negativeZero else "0"
      else NumberStyle.withSign negative
        (style.decimalText (Shortest.decimal style.tie significand exponent))

end Double

end TemplateScript
