import Mathlib.Data.Nat.Digits.Defs
import TemplateScript.Number.Constant
import TemplateScript.Proofs.Number.Overflow
import TemplateScript.Proofs.Text.Units

/-!
Written numbers.

Runs of digits and decimal literals are described by their form and by the number that they denote,
without a reader. The readers of digits, powers of ten and decimals accept just these forms, and
what they read is what is denoted.
-/
namespace TemplateScript

namespace Numeral

/-- The sixteen digits, of which a base has the first ones. -/
def digitOrder : List Char :=
  ['0', '1', '2', '3', '4', '5', '6', '7', '8', '9', 'a', 'b', 'c', 'd', 'e', 'f']

/-- A digit of a base, which may be a capital letter. -/
def IsDigit (base : Nat) (c : Char) : Prop :=
  c.toLower ∈ digitOrder.take base

def DigitText (base : Nat) (text : List Char) : Prop :=
  text ≠ [] ∧ ∀ c ∈ text, IsDigit base c

def number (base : Nat) (text : List Char) : Nat :=
  Nat.ofDigits base (text.reverse.map fun c => digitOrder.idxOf c.toLower)

def signs : List (List Char) := [[], ['+'], ['-']]

inductive PowerText : List Char → Int → Prop
  | absent : PowerText [] 0
  | written {mark : Char} {sign digits : List Char} : mark ∈ ['e', 'E'] → sign ∈ signs →
      DigitText 10 digits →
      PowerText (mark :: (sign ++ digits))
        (if sign = ['-'] then -(number 10 digits : Int) else number 10 digits)

/-- An unsigned decimal literal: digits with a point or without one, and perhaps a power of ten. -/
inductive DecimalText : List Char → ℚ → Prop
  | whole {digits power : List Char} {exponent : Int} :
      DigitText 10 digits → PowerText power exponent →
      DecimalText (digits ++ power) (number 10 digits * 10 ^ exponent)
  | pointed {whole fraction power : List Char} {exponent : Int} :
      DigitText 10 (whole ++ fraction) → PowerText power exponent →
      DecimalText (whole ++ '.' :: (fraction ++ power))
        (number 10 (whole ++ fraction) * 10 ^ (exponent - fraction.length))

def bases : List Nat := [2, 8, 16]

instance (base : Nat) (c : Char) : Decidable (IsDigit base c) :=
  inferInstanceAs (Decidable (c.toLower ∈ digitOrder.take base))

instance (base : Nat) (text : List Char) : Decidable (DigitText base text) :=
  decidable_of_iff (text ≠ [] ∧ text.all (fun c => IsDigit base c) = true) (by simp [DigitText])

theorem digit_ascii : ∀ code < 128, ∀ base ∈ bases,
    Digits.digit? base (Char.ofNat code) =
      if IsDigit base (Char.ofNat code) then some (digitOrder.idxOf (Char.ofNat code).toLower)
      else none := by
  decide +kernel

theorem decimal_digit_ascii : ∀ code < 128,
    (Char.ofNat code).isDigit = decide (IsDigit 10 (Char.ofNat code)) ∧
      ((Char.ofNat code).isDigit = true →
        Decimal.digitValue (Char.ofNat code) = digitOrder.idxOf (Char.ofNat code).toLower) := by
  decide +kernel

theorem not_le_of_large {c last : Char} (large : ¬c.toNat < 128) (ascii : last.toNat < 128) :
    ¬c.val ≤ last.val :=
  fun before => large (Nat.lt_of_le_of_lt (UInt32.le_iff_toNat_le.mp before) ascii)

theorem not_is_digit_of_large {c : Char} (large : ¬c.toNat < 128) (base : Nat) :
    ¬IsDigit base c := by
  intro digit
  have capital : ¬(c.val ≥ 'A'.val ∧ c.val ≤ 'Z'.val) :=
    fun range => not_le_of_large large (by decide) range.2
  have same : c.toLower = c := dif_neg capital
  have ascii : digitOrder.all (·.toNat < 128) = true := by decide
  have member : c ∈ digitOrder := same ▸ List.mem_of_mem_take digit
  exact large (by simpa using List.all_eq_true.mp ascii c member)

theorem is_digit_iff (c : Char) : c.isDigit = true ↔ IsDigit 10 c := by
  by_cases small : c.toNat < 128
  · have found := (decimal_digit_ascii c.toNat small).1
    rw [Char.ofNat_toNat] at found
    simp [found]
  · refine iff_of_false ?_ (not_is_digit_of_large small 10)
    intro digit
    simp only [Char.isDigit, Bool.and_eq_true, decide_eq_true_eq] at digit
    exact not_le_of_large small (by decide) digit.2

theorem digit_value_eq {c : Char} (digit : c.isDigit = true) :
    Decimal.digitValue c = digitOrder.idxOf c.toLower := by
  have small : c.toNat < 128 := by
    refine Decidable.byContradiction fun large => ?_
    exact not_is_digit_of_large large 10 ((is_digit_iff c).mp digit)
  have found := (decimal_digit_ascii c.toNat small).2
  rw [Char.ofNat_toNat] at found
  exact found digit

theorem digit_eq {base : Nat} (known : base ∈ bases) (c : Char) :
    Digits.digit? base c =
      if IsDigit base c then some (digitOrder.idxOf c.toLower) else none := by
  by_cases small : c.toNat < 128
  · simpa using digit_ascii c.toNat small base known
  · have notDigit : ¬c.isDigit = true :=
      fun digit => not_is_digit_of_large small 10 ((is_digit_iff c).mp digit)
    have notSmall : ¬('a' ≤ c ∧ c ≤ 'f') :=
      fun range => not_le_of_large small (by decide) range.2
    have notCapital : ¬('A' ≤ c ∧ c ≤ 'F') :=
      fun range => not_le_of_large small (by decide) range.2
    simp only [Digits.digit?, notDigit, notSmall, notCapital, not_is_digit_of_large small, if_false,
      Bool.false_eq_true, Nat.lt_irrefl]

theorem number_cons (base : Nat) (c : Char) (rest : List Char) :
    number base (c :: rest) =
      digitOrder.idxOf c.toLower * base ^ rest.length + number base rest := by
  simp only [number, List.reverse_cons, List.map_append, List.map_cons, List.map_nil,
    Nat.ofDigits_append, Nat.ofDigits_singleton, List.length_map, List.length_reverse]
  ring

theorem number_append (base : Nat) (first second : List Char) :
    number base (first ++ second) =
      number base first * base ^ second.length + number base second := by
  simp only [number, List.reverse_append, List.map_append, Nat.ofDigits_append, List.length_map,
    List.length_reverse]
  ring

theorem number_zeros (count : Nat) (written : List Char) :
    number 10 (List.replicate count '0' ++ written) = number 10 written := by
  induction count with
  | zero => rfl
  | succ count ih =>
      have none : digitOrder.idxOf '0'.toLower = 0 := by decide
      rw [List.replicate_succ, List.cons_append, number_cons, none, Nat.zero_mul, Nat.zero_add, ih]

theorem continue_eq_some_iff {base : Nat} (known : base ∈ bases) (text : List Char)
    (total n : Nat) :
    Digits.continue? base total text = some n ↔
      (∀ c ∈ text, IsDigit base c) ∧ n = total * base ^ text.length + number base text := by
  induction text generalizing total with
  | nil => simp [Digits.continue?, number, eq_comm]
  | cons c rest ih =>
      by_cases digit : IsDigit base c
      · have value : base * total * base ^ rest.length =
            total * base ^ (rest.length + 1) := by ring
        simp only [Digits.continue?, digit_eq known, digit, if_true, Option.bind_some, ih,
          List.forall_mem_cons, true_and, number_cons, List.length_cons, Nat.add_mul, value,
          Nat.add_assoc]
      · simp [Digits.continue?, digit_eq known, digit]

/-- Digits of a base are read as the number that they denote, and nothing else is read. -/
theorem value_eq_some_iff {base : Nat} (known : base ∈ bases) (text : List Char) (n : Nat) :
    Digits.value? base text = some n ↔ DigitText base text ∧ n = number base text := by
  cases text with
  | nil => simp [Digits.value?, DigitText]
  | cons c rest =>
      have read := continue_eq_some_iff known (c :: rest) 0 n
      simpa [Digits.value?, DigitText] using read

theorem fold_eq {text : List Char} (digits : ∀ c ∈ text, c.isDigit = true) (total : Nat) :
    text.foldl (fun total c => 10 * total + Decimal.digitValue c) total =
      total * 10 ^ text.length + number 10 text := by
  induction text generalizing total with
  | nil => simp [number]
  | cons c rest ih =>
      obtain ⟨first, others⟩ := List.forall_mem_cons.mp digits
      rw [List.foldl_cons, ih others, number_cons, digit_value_eq first, List.length_cons]
      ring

theorem decimal_value_eq {text : List Char} (digits : ∀ c ∈ text, c.isDigit = true) :
    Decimal.value text = number 10 text := by
  simpa [Decimal.value] using fold_eq digits 0

theorem digit_text_ten_iff (text : List Char) :
    DigitText 10 text ↔ text ≠ [] ∧ ∀ c ∈ text, c.isDigit = true := by
  simp only [DigitText, is_digit_iff]

theorem to_digits_digits (n : Nat) : ∀ c ∈ Nat.toDigits 10 n, c.isDigit = true :=
  fun _ member => Nat.isDigit_of_mem_toDigits (by decide) (by decide) member

theorem number_to_digits (n : Nat) : number 10 (Nat.toDigits 10 n) = n := by
  rw [← decimal_value_eq (to_digits_digits n)]
  exact Nat.ofDigitChars_ten_toDigits

section Signs

def Unsigned (text : List Char) : Prop :=
  ∀ c ∈ text.head?, c ∉ ['+', '-']

theorem not_unsigned {c : Char} (sign : c ∈ ['+', '-']) (rest : List Char) :
    ¬Unsigned (c :: rest) :=
  fun unsigned => unsigned c rfl sign

theorem mem_signs_iff (sign : List Char) :
    sign ∈ signs ↔ sign = [] ∨ ∃ c ∈ ['+', '-'], sign = [c] := by
  simp [signs]

theorem sign_known {c : Char} (sign : c ∈ ['+', '-']) : [c] ∈ signs :=
  (mem_signs_iff [c]).mpr (.inr ⟨c, sign, rfl⟩)

theorem read_sign_unsigned {text : List Char} (unsigned : Unsigned text) :
    Decimal.readSign text = (false, text) := by
  cases text with
  | nil => rfl
  | cons c rest =>
      have apart := unsigned c rfl
      simp only [List.mem_cons, List.not_mem_nil, or_false, not_or] at apart
      simp [Decimal.readSign, apart]

/-- A sign is read off the front once, whatever stands behind it. -/
theorem read_sign_append {sign text : List Char} (known : sign ∈ signs)
    (first : sign = [] → Unsigned text) :
    Decimal.readSign (sign ++ text) = (decide (sign = ['-']), text) := by
  simp only [signs, List.mem_cons, List.not_mem_nil, or_false] at known
  rcases known with rfl | rfl | rfl
  · simpa using read_sign_unsigned (first rfl)
  · rfl
  · rfl

/-- Every text is a sign, or none, and what stands behind it. -/
theorem exists_sign (text : List Char) :
    ∃ sign ∈ signs, ∃ rest, text = sign ++ rest ∧ (sign = [] → Unsigned rest) := by
  cases text with
  | nil => exact ⟨[], by decide, [], rfl, by simp [Unsigned]⟩
  | cons c rest =>
      by_cases isSign : c ∈ ['+', '-']
      · exact ⟨[c], sign_known isSign, rest, rfl, nofun⟩
      · exact ⟨[], by decide, c :: rest, rfl, fun _ => by simpa [Unsigned] using isSign⟩

theorem is_digit_not_sign {base : Nat} {c : Char} (digit : IsDigit base c) : c ∉ ['+', '-'] := by
  have known := List.mem_of_mem_take digit
  intro sign
  simp only [List.mem_cons, List.not_mem_nil, or_false] at sign
  rcases sign with rfl | rfl
  · exact absurd known (by decide)
  · exact absurd known (by decide)

theorem DigitText.unsigned {base : Nat} {text : List Char} (digits : DigitText base text) :
    Unsigned text := by
  intro c first
  exact is_digit_not_sign (digits.2 c (List.mem_of_mem_head? first))

end Signs

section Decimals

theorem read_exponent_eq_some_iff (text : List Char) (exponent : Int) :
    Decimal.readExponent? text = some exponent ↔ PowerText text exponent := by
  constructor
  · intro read
    cases text with
    | nil =>
        cases read
        exact .absent
    | cons mark rest =>
        simp only [Decimal.readExponent?] at read
        split at read
        · next known =>
            obtain ⟨sign, listed, digits, rfl, first⟩ := exists_sign rest
            rw [read_sign_append listed first] at read
            dsimp only at read
            split at read
            · cases read
            · next filled =>
                have digitText : digits ≠ [] ∧ ∀ c ∈ digits, c.isDigit = true := by
                  simpa using filled
                rw [decimal_value_eq digitText.2] at read
                have written : PowerText (mark :: (sign ++ digits)) _ :=
                  .written (by simpa using known) listed ((digit_text_ten_iff digits).mpr digitText)
                simpa [← Option.some.inj read, Decimal.signed] using written
        · cases read
  · intro power
    cases power with
    | absent => rfl
    | @written mark sign digits known listed digitText =>
        have decimal := (digit_text_ten_iff digits).mp digitText
        have marked : mark = 'e' ∨ mark = 'E' := by simpa using known
        have unsigned : sign = [] → Unsigned digits := fun _ => digitText.unsigned
        have filled : (digits.isEmpty || !digits.all Char.isDigit) = false := by
          simpa using decimal
        simp [Decimal.readExponent?, marked, read_sign_append listed unsigned, filled,
          decimal_value_eq decimal.2, Decimal.signed]

/-- A power of ten begins with no digit and no point. -/
theorem PowerText.head {text : List Char} {exponent : Int} (power : PowerText text exponent) :
    ∀ c ∈ text.head?, c.isDigit = false ∧ c ≠ '.' := by
  cases power with
  | absent => simp
  | written known _ _ =>
      simp only [List.mem_cons, List.not_mem_nil, or_false] at known
      rcases known with rfl | rfl <;> simp

/-- The digits at the front of a text, and what stands behind them. -/
theorem exists_digits (text : List Char) :
    ∃ digits rest, text = digits ++ rest ∧ (∀ c ∈ digits, c.isDigit = true) ∧
      ∀ c ∈ rest.head?, c.isDigit = false := by
  induction text with
  | nil => exact ⟨[], [], rfl, by simp, by simp⟩
  | cons first others ih =>
      by_cases digit : first.isDigit = true
      · obtain ⟨digits, rest, rfl, all, stop⟩ := ih
        exact ⟨first :: digits, rest, rfl, List.forall_mem_cons.mpr ⟨digit, all⟩, stop⟩
      · exact ⟨[], first :: others, rfl, by simp, by simpa using digit⟩

theorem read_whole {digits rest : List Char} (all : ∀ c ∈ digits, c.isDigit = true)
    (stop : ∀ c ∈ rest.head?, c.isDigit = false) (pointless : ∀ after, rest ≠ '.' :: after) :
    Decimal.read? (digits ++ rest) =
      if digits = [] then none
      else (Decimal.readExponent? rest).map fun exponent => ⟨number 10 digits, exponent⟩ := by
  obtain ⟨taken, left⟩ := run_exact all stop
  simp only [Decimal.read?, Decimal.parts?, taken, left]
  by_cases empty : digits = []
  · simp [empty]
  · have filled : (digits.isEmpty && ([] : List Char).isEmpty) = false := by simpa using empty
    simp only [filled, Bool.false_eq_true, if_false, empty, Option.map_map]
    congr 1
    funext exponent
    simp [Decimal.ofParts, decimal_value_eq all]

theorem read_pointed {whole fraction rest : List Char}
    (all : ∀ c ∈ whole ++ fraction, c.isDigit = true)
    (stop : ∀ c ∈ rest.head?, c.isDigit = false) :
    Decimal.read? (whole ++ '.' :: (fraction ++ rest)) =
      if whole ++ fraction = [] then none
      else (Decimal.readExponent? rest).map fun exponent =>
        ⟨number 10 (whole ++ fraction), exponent - fraction.length⟩ := by
  obtain ⟨allWhole, allFraction⟩ := List.forall_mem_append.mp all
  have point : ∀ c ∈ ('.' :: (fraction ++ rest)).head?, c.isDigit = false := by simp
  obtain ⟨taken, left⟩ := run_exact allWhole point
  obtain ⟨takenAfter, leftAfter⟩ := run_exact allFraction stop
  simp only [Decimal.read?, Decimal.parts?, taken, left, takenAfter, leftAfter]
  by_cases empty : whole ++ fraction = []
  · simp [List.append_eq_nil_iff.mp empty]
  · have filled : (whole.isEmpty && fraction.isEmpty) = false := by
      simpa [← Bool.not_eq_true] using empty
    simp only [filled, Bool.false_eq_true, if_false, empty, Option.map_map]
    congr 1
    funext exponent
    simp [Decimal.ofParts, decimal_value_eq all]

/-- A decimal is read from the literals that denote it, and from nothing else. -/
theorem decimal_text_iff (literal : List Char) (value : ℚ) :
    DecimalText literal value ↔ ∃ d, Decimal.read? literal = some d ∧ d.toRat = value := by
  constructor
  · intro text
    cases text with
    | @whole digits power exponent digitText powerText =>
        have decimal := (digit_text_ten_iff digits).mp digitText
        have read := (read_exponent_eq_some_iff power exponent).mpr powerText
        have pointless : ∀ after, power ≠ '.' :: after := by
          rintro after rfl
          exact (powerText.head '.' rfl).2 rfl
        refine ⟨⟨number 10 digits, exponent⟩, ?_, rfl⟩
        rw [read_whole decimal.2 (fun c first => (powerText.head c first).1) pointless,
          if_neg decimal.1, read]
        rfl
    | @pointed whole fraction power exponent digitText powerText =>
        have decimal := (digit_text_ten_iff (whole ++ fraction)).mp digitText
        have read := (read_exponent_eq_some_iff power exponent).mpr powerText
        refine ⟨⟨number 10 (whole ++ fraction), exponent - fraction.length⟩, ?_, rfl⟩
        rw [read_pointed decimal.2 fun c first => (powerText.head c first).1, if_neg decimal.1,
          read]
        rfl
  · rintro ⟨d, read, rfl⟩
    obtain ⟨whole, rest, rfl, all, stop⟩ := exists_digits literal
    by_cases point : ∃ after, rest = '.' :: after
    · obtain ⟨after, rfl⟩ := point
      obtain ⟨fraction, power, rfl, allFraction, stopAfter⟩ := exists_digits after
      have decimal := List.forall_mem_append.mpr ⟨all, allFraction⟩
      rw [read_pointed decimal stopAfter] at read
      split at read
      · cases read
      · next filled =>
          obtain ⟨exponent, powerRead, rfl⟩ := Option.map_eq_some_iff.mp read
          exact .pointed ((digit_text_ten_iff _).mpr ⟨filled, decimal⟩)
            ((read_exponent_eq_some_iff power exponent).mp powerRead)
    · rw [read_whole all stop (not_exists.mp point)] at read
      split at read
      · cases read
      · next filled =>
          obtain ⟨exponent, powerRead, rfl⟩ := Option.map_eq_some_iff.mp read
          exact .whole ((digit_text_ten_iff _).mpr ⟨filled, all⟩)
            ((read_exponent_eq_some_iff rest exponent).mp powerRead)

theorem DecimalText.unique {text : List Char} {value other : ℚ} (first : DecimalText text value)
    (second : DecimalText text other) : value = other := by
  obtain ⟨d, read, rfl⟩ := (decimal_text_iff text value).mp first
  obtain ⟨d', read', rfl⟩ := (decimal_text_iff text other).mp second
  rw [read] at read'
  rw [Option.some.inj read']

theorem DecimalText.unsigned {text : List Char} {value : ℚ} (denoted : DecimalText text value) :
    Unsigned text := by
  rintro c first sign
  obtain ⟨rest, rfl⟩ : ∃ rest, text = c :: rest := List.head?_eq_some_iff.mp first
  obtain ⟨d, read, _⟩ := (decimal_text_iff _ value).mp denoted
  simp only [List.mem_cons, List.not_mem_nil, or_false] at sign
  rcases sign with rfl | rfl <;> cases read

end Decimals

end Numeral

end TemplateScript
