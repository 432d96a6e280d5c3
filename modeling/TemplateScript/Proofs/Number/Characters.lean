import TemplateScript.Proofs.Number.Numerals
import TemplateScript.Proofs.Number.Whole
import TemplateScript.Proofs.Text.Literal

/-!
Character constants.

Between single quotes stands one character or one escape. The escapes are described by their forms:
letters with a code of their own, letters with a number of hexadecimal digits behind them, and three
octal digits. What the reader accepts is just what has one of these forms and denotes a character,
and the double that it gives is the code of the character. Every character has an escape.
-/
namespace TemplateScript

/-- A double that is a whole number, without rounding. -/
def Double.IsWhole (d : Double) (n : Int) : Prop :=
  ∃ negative significand exponent, d.read = .finite negative significand exponent ∧
    steps negative significand exponent = n * stepsPerOne

namespace Constant

open Numeral

def letterEscapes : List (Char × Nat) :=
  [('a', 0x07), ('b', 0x08), ('f', 0x0c), ('n', 0x0a), ('r', 0x0d), ('t', 0x09), ('v', 0x0b),
    ('\\', '\\'.toNat), ('\x27', '\x27'.toNat)]

/-- The letters with hexadecimal digits behind them, and how many these are. -/
def digitEscapes : List (Char × Nat) :=
  [('x', 2), ('u', 4), ('U', 8)]

/-- An escape without its backslash, and the code that it denotes. -/
inductive Escape : List Char → Nat → Prop
  | letter {letter : Char} {code : Nat} : (letter, code) ∈ letterEscapes → Escape [letter] code
  | hexadecimal {letter : Char} {count : Nat} {digits : List Char} :
      (letter, count) ∈ digitEscapes → digits.length = count → DigitText 16 digits →
      Escape (letter :: digits) (number 16 digits)
  | octal {digits : List Char} : digits.length = 3 → DigitText 8 digits → number 8 digits ≤ 255 →
      Escape digits (number 8 digits)

/-- The inside of a character constant, and the character that it denotes. -/
inductive Denotes : List Char → Nat → Prop
  | plain {c : Char} : c ≠ '\\' → Denotes [c] c.toNat
  | escaped {escape : List Char} {code : Nat} : Escape escape code → code.isValidChar →
      Denotes ('\\' :: escape) code

def quoted (inner : List Char) : String :=
  String.ofList ('\x27' :: (inner ++ ['\x27']))

def hexForm : Nat → Nat → List Char
  | 0, _ => []
  | count + 1, code => hexForm count (code / 16) ++ [Literal.hexDigit code]

section Forms

theorem letter_code {letter : Char} {code : Nat} (listed : (letter, code) ∈ letterEscapes) :
    escapeCode? [letter] = some code := by
  have all : ∀ entry ∈ letterEscapes, escapeCode? [entry.1] = some entry.2 := by decide
  exact all _ listed

theorem hexadecimal_code {letter : Char} {count : Nat} (listed : (letter, count) ∈ digitEscapes)
    (digits : List Char) : escapeCode? (letter :: digits) = hexCode? count digits := by
  simp only [digitEscapes, List.mem_cons, List.not_mem_nil, or_false, Prod.mk.injEq] at listed
  rcases listed with ⟨rfl, rfl⟩ | ⟨rfl, rfl⟩ | ⟨rfl, rfl⟩
  all_goals rfl

theorem octal_code {digits : List Char} (octal : DigitText 8 digits) (three : digits.length = 3) :
    escapeCode? digits = octalCode? digits := by
  match digits, three with
  | [first, second, third], _ =>
      have digit : IsDigit 8 first := octal.2 first List.mem_cons_self
      have apart : ∀ entry ∈ digitEscapes, first ≠ entry.1 := by
        have none : ∀ entry ∈ digitEscapes, ¬IsDigit 8 entry.1 := by decide
        rintro entry listed rfl
        exact none entry listed digit
      simp only [digitEscapes, List.forall_mem_cons, List.not_mem_nil, false_implies, implies_true,
        and_true] at apart
      simp [escapeCode?, apart]

theorem hex_code_eq_some_iff (count : Nat) (digits : List Char) (code : Nat) :
    hexCode? count digits = some code ↔
      digits.length = count ∧ DigitText 16 digits ∧ code = number 16 digits := by
  have known : 16 ∈ bases := by decide
  simp only [hexCode?, Option.ite_none_right_eq_some, value_eq_some_iff known]

theorem octal_code_eq_some_iff (digits : List Char) (code : Nat) :
    octalCode? digits = some code ↔
      digits.length = 3 ∧ DigitText 8 digits ∧ number 8 digits ≤ 255 ∧ code = number 8 digits := by
  have known : 8 ∈ bases := by decide
  simp only [octalCode?, Option.ite_none_right_eq_some, Option.bind_eq_some_iff,
    value_eq_some_iff known]
  constructor
  · rintro ⟨three, _, ⟨octal, rfl⟩, small, same⟩
    exact ⟨three, octal, small, (Option.some.inj same).symm⟩
  · rintro ⟨three, octal, small, rfl⟩
    exact ⟨three, _, ⟨octal, rfl⟩, small, rfl⟩

/-- The escapes that are read are those that have one of the forms. -/
theorem escape_code_eq_some_iff (escape : List Char) (code : Nat) :
    escapeCode? escape = some code ↔ Escape escape code := by
  constructor
  · intro read
    have hexadecimal {letter : Char} {count : Nat} {digits : List Char}
        (listed : (letter, count) ∈ digitEscapes) (read : hexCode? count digits = some code) :
        Escape (letter :: digits) code := by
      obtain ⟨length, digitText, rfl⟩ := (hex_code_eq_some_iff count digits code).mp read
      exact .hexadecimal listed length digitText
    unfold escapeCode? at read
    split at read
    case h_10 => exact hexadecimal (by decide) read
    case h_11 => exact hexadecimal (by decide) read
    case h_12 => exact hexadecimal (by decide) read
    case h_13 =>
      obtain ⟨three, octal, small, rfl⟩ := (octal_code_eq_some_iff _ code).mp read
      exact .octal three octal small
    all_goals
      obtain rfl := Option.some.inj read
      exact .letter (by decide)
  · intro known
    cases known with
    | letter listed => exact letter_code listed
    | hexadecimal listed length digits =>
        rw [hexadecimal_code listed, hex_code_eq_some_iff]
        exact ⟨length, digits, rfl⟩
    | octal three octal small =>
        rw [octal_code octal three, octal_code_eq_some_iff]
        exact ⟨three, octal, small, rfl⟩

theorem is_scalar_iff (code : Nat) : isScalar code = true ↔ code.isValidChar := by
  simp only [isScalar, Nat.isValidChar, Bool.or_eq_true, Bool.and_eq_true, decide_eq_true_eq]
  omega

theorem character_eq_some_iff (inner : List Char) (code : Nat) :
    character? inner = some code ↔ Denotes inner code := by
  constructor
  · intro read
    unfold character? at read
    split at read
    · next escape =>
        obtain ⟨own, found, kept⟩ := Option.bind_eq_some_iff.mp read
        obtain ⟨scalar, same⟩ := Option.ite_none_right_eq_some.mp kept
        obtain rfl := Option.some.inj same
        exact .escaped ((escape_code_eq_some_iff escape own).mp found)
          ((is_scalar_iff own).mp scalar)
    · next c other =>
        obtain rfl := Option.some.inj read
        exact .plain other
    · cases read
  · intro known
    cases known with
    | plain other => simp [character?]
    | escaped escape valid =>
        simp [character?, (escape_code_eq_some_iff _ code).mpr escape,
          (is_scalar_iff code).mpr valid]

end Forms

section Values

theorem read_quoted (inner : List Char) :
    read? (quoted inner) = (character? inner).map Double.ofNat := by
  have inside : inQuotes? (quoted inner).toList = some inner := by
    simp [quoted, inQuotes?]
  simp only [read?, inside]

theorem Denotes.small {inner : List Char} {code : Nat} (known : Denotes inner code) :
    code < 0x110000 := by
  have valid : code.isValidChar := by
    cases known with
    | plain => exact Char.valid _
    | escaped _ valid => exact valid
  rw [Nat.isValidChar] at valid
  omega

/-- Codes of characters are far too small to be rounded. -/
theorem Denotes.whole {inner : List Char} {code : Nat} (known : Denotes inner code) :
    (Double.ofNat code).IsWhole code := by
  have limit : 0x110000 < Double.exactLimit := by decide
  have exact : (code : Int).natAbs < Double.exactLimit := Nat.lt_trans known.small limit
  have positive : ¬(code : Int) < 0 := by omega
  have same : Double.ofInt code = Double.ofNat code := by
    simp only [Double.ofInt, Double.ofNat, positive, decide_false, Int.natAbs_natCast]
  exact same ▸ Double.read_of_int exact

theorem Denotes.read {inner : List Char} {code : Nat} (known : Denotes inner code) :
    ∃ value, read? (quoted inner) = some value ∧ value.IsWhole code := by
  refine ⟨Double.ofNat code, ?_, known.whole⟩
  rw [read_quoted, (character_eq_some_iff inner code).mpr known, Option.map_some]

end Values

section HexForms

theorem length_hex_form (count code : Nat) : (hexForm count code).length = count := by
  induction count generalizing code with
  | zero => rfl
  | succ count ih => rw [hexForm, List.length_append, ih, List.length_singleton]

theorem hex_digit_is_digit (digit : Nat) :
    IsDigit 16 (Literal.hexDigit digit) ∧
      digitOrder.idxOf (Literal.hexDigit digit).toLower = digit % 16 := by
  have all : ∀ rest < 16, IsDigit 16 (Nat.digitChar rest) ∧
      digitOrder.idxOf (Nat.digitChar rest).toLower = rest := by decide
  exact all (digit % 16) (Nat.mod_lt _ (by decide))

theorem hex_form_digits (count code : Nat) : ∀ c ∈ hexForm count code, IsDigit 16 c := by
  induction count generalizing code with
  | zero => simp [hexForm]
  | succ count ih =>
      rw [hexForm, List.forall_mem_append]
      exact ⟨ih _, by simpa using (hex_digit_is_digit code).1⟩

theorem number_hex_form (count code : Nat) :
    number 16 (hexForm count code) = code % 16 ^ count := by
  induction count generalizing code with
  | zero => simp [hexForm, number, Nat.mod_one]
  | succ count ih =>
      have last : number 16 [Literal.hexDigit code] = code % 16 := by
        simp [number, (hex_digit_is_digit code).2]
      rw [hexForm, number_append, ih, last, List.length_singleton, pow_one, pow_succ',
        Nat.mod_mul, Nat.mul_comm, Nat.add_comm]

theorem Denotes.hex_form {letter : Char} {count : Nat} (listed : (letter, count) ∈ digitEscapes)
    {c : Char} (fits : c.toNat < 16 ^ count) :
    Denotes ('\\' :: letter :: Constant.hexForm count c.toNat) c.toNat := by
  have filled : Constant.hexForm count c.toNat ≠ [] := by
    have some : ∀ entry ∈ digitEscapes, entry.2 ≠ 0 := by decide
    rw [← List.length_pos_iff, length_hex_form]
    exact Nat.pos_of_ne_zero (some _ listed)
  have escape := Escape.hexadecimal listed (length_hex_form count c.toNat)
    ⟨filled, hex_form_digits count c.toNat⟩
  rw [number_hex_form, Nat.mod_eq_of_lt fits] at escape
  exact .escaped escape c.valid

end HexForms

/-- A text between single quotes is read just if it has a form that denotes a character, and then as
the code of this character. Every character has a form with eight hexadecimal digits, and below
U+10000 also one with four. -/
theorem character_constant_reads (inner : List Char) :
    ((read? (quoted inner)).isSome = true ↔ ∃ code, Denotes inner code) ∧
      (∀ code, Denotes inner code →
        ∃ value, read? (quoted inner) = some value ∧ value.IsWhole code) ∧
      ∀ c : Char, Denotes ('\\' :: 'U' :: hexForm 8 c.toNat) c.toNat ∧
        (c.toNat < 0x10000 → Denotes ('\\' :: 'u' :: hexForm 4 c.toNat) c.toNat) := by
  refine ⟨?_, fun _ => Denotes.read, ?_⟩
  · rw [read_quoted, Option.isSome_map, Option.isSome_iff_exists]
    exact exists_congr (character_eq_some_iff inner)
  · intro c
    have bounds := Units.char_to_nat_bounds c
    exact ⟨.hex_form (by decide) (by omega), fun small => .hex_form (by decide) small⟩

/-- Neither half of a surrogate pair nor an octal code above 255 is a character. -/
example : read? (quoted "\\ud800".toList) = none ∧ read? (quoted "\\400".toList) = none := by
  decide +kernel

end Constant

end TemplateScript
