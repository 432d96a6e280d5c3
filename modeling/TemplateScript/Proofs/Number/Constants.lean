import TemplateScript.Proofs.Number.Numerals

/-!
Which texts are number constants.

A constant has one sign or none, and then a decimal literal, digits behind a base mark, or octal
digits behind a zero. The reader takes a sign off the front and leaves the rest to readers that look
for a sign themselves. So it reads every constant, and it also reads texts with a sign too many:
decimals behind two signs, and digits behind a base mark that have a sign of their own. Nothing else
is read.
-/
namespace TemplateScript.Constant

open Numeral

def baseMarks : List (Char × Nat) :=
  [('x', 16), ('X', 16), ('o', 8), ('O', 8), ('b', 2), ('B', 2)]

/-- Digits of a number that is at most the greatest one of 64 bits with a sign. -/
def WordText (base : Nat) (digits : List Char) : Prop :=
  DigitText base digits ∧ number base digits ≤ 2 ^ 63 - 1

def FiniteText (literal : List Char) : Prop :=
  ∃ value, DecimalText literal value ∧ value < Double.overflow

def Marked (body : List Char) : Prop :=
  ∃ mark base rest, (mark, base) ∈ baseMarks ∧ body = '0' :: mark :: rest

/-- A zero and decimal digits, which is octal and no decimal literal. -/
def LeadingZero (body : List Char) : Prop :=
  ∃ digits, body = '0' :: digits ∧ DigitText 10 digits

inductive Body : List Char → Prop
  | marked {mark : Char} {base : Nat} {digits : List Char} :
      (mark, base) ∈ baseMarks → WordText base digits → Body ('0' :: mark :: digits)
  | octal {digits : List Char} : WordText 8 digits → Body ('0' :: digits)
  | decimal {literal : List Char} : FiniteText literal → ¬LeadingZero literal → Body literal

/-- A constant as templates write it, without separators. -/
def Written (text : List Char) : Prop :=
  ∃ sign ∈ signs, ∃ body, text = sign ++ body ∧ Body body

/-- Digits with a sign of their own, where the least number of 64 bits is reached too. -/
def SignedWord (base : Nat) (text : List Char) : Prop :=
  ∃ sign ∈ ['+', '-'], ∃ digits, text = sign :: digits ∧ DigitText base digits ∧
    (number base digits ≤ 2 ^ 63 - 1 ∨ sign = '-' ∧ number base digits = 2 ^ 63)

def SignedDecimal (text : List Char) : Prop :=
  ∃ sign ∈ ['+', '-'], ∃ literal, text = sign :: literal ∧ FiniteText literal

/-- What is read although a sign stands in it. Digits behind a zero are not octal here. -/
inductive SignedBody : List Char → Prop
  | marked {mark : Char} {base : Nat} {rest : List Char} :
      (mark, base) ∈ baseMarks → SignedWord base rest → SignedBody ('0' :: mark :: rest)
  | decimal {body : List Char} : SignedDecimal body → SignedBody body

def Resigned (text : List Char) : Prop :=
  ∃ sign ∈ signs, ∃ body, text = sign ++ body ∧ (sign = [] → Unsigned body) ∧ SignedBody body

def content (text : String) : List Char :=
  text.toList.filter (· ≠ '_')

def Quoted (text : List Char) : Prop :=
  ∃ inner, text = '\x27' :: (inner ++ ['\x27'])

theorem base_known {mark : Char} {base : Nat} (known : (mark, base) ∈ baseMarks) :
    base ∈ bases := by
  have all : ∀ entry ∈ baseMarks, entry.2 ∈ bases := by decide
  exact all _ known

theorem mark_not_digit {mark : Char} {base : Nat} (known : (mark, base) ∈ baseMarks) :
    ¬IsDigit 10 mark := by
  have all : ∀ entry ∈ baseMarks, ¬IsDigit 10 entry.1 := by decide
  exact all _ known

theorem octal_is_decimal {digits : List Char} (octal : DigitText 8 digits) :
    DigitText 10 digits := by
  refine ⟨octal.1, fun c member => ?_⟩
  exact (List.take_prefix_take_left (by decide)).subset (octal.2 c member)

/-- No decimal literal has a base mark behind its first digit. -/
theorem FiniteText.unmarked {literal : List Char} (finite : FiniteText literal) :
    ¬Marked literal := by
  rintro ⟨mark, base, rest, known, rfl⟩
  obtain ⟨value, text, _⟩ := finite
  obtain ⟨d, read, _⟩ := (decimal_text_iff _ value).mp text
  simp only [baseMarks, List.mem_cons, List.not_mem_nil, or_false, Prod.mk.injEq] at known
  rcases known with ⟨rfl, _⟩ | ⟨rfl, _⟩ | ⟨rfl, _⟩ | ⟨rfl, _⟩ | ⟨rfl, _⟩ | ⟨rfl, _⟩ <;> cases read

theorem FiniteText.unsigned {literal : List Char} (finite : FiniteText literal) :
    Unsigned literal := by
  obtain ⟨value, text, _⟩ := finite
  exact text.unsigned

section Readers

theorem integer_sign_is_some {base : Nat} (known : base ∈ bases) {sign digits : List Char}
    (listed : sign ∈ signs) (first : sign = [] → Unsigned digits) :
    (integer? base (sign ++ digits)).isSome = true ↔
      DigitText base digits ∧
        (number base digits ≤ 2 ^ 63 - 1 ∨ sign = ['-'] ∧ number base digits = 2 ^ 63) := by
  simp only [integer?, read_sign_append listed first]
  cases value : Digits.value? base digits with
  | none =>
      have refused : ¬DigitText base digits := by
        intro digitText
        cases value.symm.trans ((value_eq_some_iff known digits _).mpr ⟨digitText, rfl⟩)
      simp [refused]
  | some n =>
      obtain ⟨digitText, rfl⟩ := (value_eq_some_iff known digits n).mp value
      have range : number base digits < 2 ^ 63 ↔ number base digits ≤ 2 ^ 63 - 1 :=
        Nat.lt_iff_le_pred (Nat.two_pow_pos 63)
      simpa [digitText] using or_congr_left range

/-- Digits are read with a sign of their own too. -/
theorem integer_is_some_iff {base : Nat} (known : base ∈ bases) (text : List Char) :
    (integer? base text).isSome = true ↔ WordText base text ∨ SignedWord base text := by
  constructor
  · intro read
    obtain ⟨sign, listed, digits, rfl, first⟩ := exists_sign text
    obtain ⟨digitText, fits⟩ := (integer_sign_is_some known listed first).mp read
    rcases (mem_signs_iff sign).mp listed with rfl | ⟨c, isSign, rfl⟩
    · exact .inl ⟨digitText, by simpa using fits⟩
    · exact .inr ⟨c, isSign, digits, rfl, digitText, by simpa using fits⟩
  · rintro (⟨digitText, fits⟩ | ⟨c, isSign, digits, rfl, digitText, fits⟩)
    · have absent : [] ∈ signs := by decide
      exact (integer_sign_is_some known absent fun _ => digitText.unsigned).mpr
        ⟨digitText, .inl fits⟩
    · exact (integer_sign_is_some known (sign_known isSign) fun _ => digitText.unsigned).mpr
        ⟨digitText, by simpa using fits⟩

theorem decimal_sign_is_some {sign literal : List Char} (listed : sign ∈ signs)
    (first : sign = [] → Unsigned literal) :
    (decimal? (sign ++ literal)).isSome = true ↔ FiniteText literal := by
  simp only [decimal?, read_sign_append listed first]
  constructor
  · intro read
    cases found : Decimal.read? literal with
    | none => simp [found] at read
    | some d =>
        have finite : (d.toDouble (decide (sign = ['-']))).isFinite = true := by
          simpa [found] using read
        exact ⟨d.toRat, (decimal_text_iff _ _).mpr ⟨d, found, rfl⟩,
          (Decimal.to_double_finite_iff _ d).mp finite⟩
  · rintro ⟨value, text, finite⟩
    obtain ⟨d, read, rfl⟩ := (decimal_text_iff literal value).mp text
    have double := (Decimal.to_double_finite_iff (decide (sign = ['-'])) d).mpr finite
    simp [read, double]

/-- A decimal literal is read with a sign of its own too. -/
theorem decimal_is_some_iff (text : List Char) :
    (decimal? text).isSome = true ↔ FiniteText text ∨ SignedDecimal text := by
  constructor
  · intro read
    obtain ⟨sign, listed, literal, rfl, first⟩ := exists_sign text
    have finite := (decimal_sign_is_some listed first).mp read
    rcases (mem_signs_iff sign).mp listed with rfl | ⟨c, isSign, rfl⟩
    · exact .inl finite
    · exact .inr ⟨c, isSign, literal, rfl, finite⟩
  · rintro (finite | ⟨c, isSign, literal, rfl, finite⟩)
    · have absent : [] ∈ signs := by decide
      exact (decimal_sign_is_some absent fun _ => finite.unsigned).mpr finite
    · exact (decimal_sign_is_some (sign_known isSign) fun _ => finite.unsigned).mpr finite

theorem unsigned_marked {mark : Char} {base : Nat} (known : (mark, base) ∈ baseMarks)
    (rest : List Char) :
    unsigned? ('0' :: mark :: rest) = (integer? base rest).map Double.ofInt := by
  simp only [baseMarks, List.mem_cons, List.not_mem_nil, or_false, Prod.mk.injEq] at known
  rcases known with ⟨rfl, rfl⟩ | ⟨rfl, rfl⟩ | ⟨rfl, rfl⟩ | ⟨rfl, rfl⟩ | ⟨rfl, rfl⟩ | ⟨rfl, rfl⟩
  all_goals rfl

theorem unsigned_unmarked {second : Char} (unmarked : ∀ base, (second, base) ∉ baseMarks)
    (rest : List Char) :
    unsigned? ('0' :: second :: rest) =
      if (second :: rest).all Char.isDigit then (integer? 8 (second :: rest)).map Double.ofInt
      else decimal? ('0' :: second :: rest) := by
  have apart : ∀ entry ∈ baseMarks, second ≠ entry.1 := by
    rintro ⟨mark, base⟩ known rfl
    exact unmarked base known
  simp only [baseMarks, List.forall_mem_cons, List.not_mem_nil, false_implies, implies_true,
    and_true] at apart
  simp [unsigned?, apart]

theorem unsigned_octal {digits : List Char} (decimal : DigitText 10 digits) :
    unsigned? ('0' :: digits) = (integer? 8 digits).map Double.ofInt := by
  obtain ⟨filled, all⟩ := (digit_text_ten_iff digits).mp decimal
  cases digits with
  | nil => exact absurd rfl filled
  | cons second rest =>
      have unmarked : ∀ base, (second, base) ∉ baseMarks := fun base known =>
        mark_not_digit known (decimal.2 second List.mem_cons_self)
      rw [unsigned_unmarked unmarked, if_pos (List.all_eq_true.mpr all)]

theorem unsigned_other {body : List Char} (unmarked : ¬Marked body) (plain : ¬LeadingZero body) :
    unsigned? body = decimal? body := by
  rcases body with _ | ⟨first, _ | ⟨second, rest⟩⟩
  · rfl
  · simp [unsigned?]
  · by_cases zero : first = '0'
    · subst zero
      have apart : ∀ base, (second, base) ∉ baseMarks :=
        fun base known => unmarked ⟨second, base, rest, known, rfl⟩
      rw [unsigned_unmarked apart, if_neg]
      intro all
      exact plain ⟨second :: rest, rfl, (digit_text_ten_iff _).mpr
        ⟨List.cons_ne_nil _ _, List.all_eq_true.mp all⟩⟩
    · simp [unsigned?, zero]

end Readers

section Language

theorem Body.unsigned {body : List Char} (known : Body body) : Unsigned body := by
  cases known with
  | marked _ _ => simp [Unsigned]
  | octal _ => simp [Unsigned]
  | decimal finite _ => exact finite.unsigned

theorem Body.read {body : List Char} (known : Body body) : (unsigned? body).isSome = true := by
  cases known with
  | marked mark word =>
      rw [unsigned_marked mark, Option.isSome_map, integer_is_some_iff (base_known mark)]
      exact .inl word
  | octal word =>
      rw [unsigned_octal (octal_is_decimal word.1), Option.isSome_map,
        integer_is_some_iff (by decide)]
      exact .inl word
  | decimal finite plain =>
      rw [unsigned_other finite.unmarked plain, decimal_is_some_iff]
      exact .inl finite

theorem SignedBody.read {body : List Char} (known : SignedBody body) :
    (unsigned? body).isSome = true := by
  cases known with
  | marked mark signed =>
      rw [unsigned_marked mark, Option.isSome_map, integer_is_some_iff (base_known mark)]
      exact .inr signed
  | decimal signed =>
      have zero : ∀ rest, body ≠ '0' :: rest := by
        rintro rest rfl
        obtain ⟨sign, isSign, literal, same, _⟩ := signed
        cases same
        exact absurd isSign (by decide)
      have unmarked : ¬Marked body := fun ⟨mark, _, rest, _, same⟩ => zero (mark :: rest) same
      have plain : ¬LeadingZero body := fun ⟨digits, same, _⟩ => zero digits same
      rw [unsigned_other unmarked plain, decimal_is_some_iff]
      exact .inr signed

/-- What is read behind the first sign: a constant, or something that has a sign of its own. -/
theorem unsigned_is_some_iff (body : List Char) :
    (unsigned? body).isSome = true ↔ Body body ∨ SignedBody body := by
  refine ⟨fun read => ?_, fun known => known.elim Body.read SignedBody.read⟩
  by_cases marked : Marked body
  · obtain ⟨mark, base, rest, known, rfl⟩ := marked
    rw [unsigned_marked known, Option.isSome_map, integer_is_some_iff (base_known known)] at read
    exact read.imp (.marked known) (.marked known)
  · by_cases zero : LeadingZero body
    · obtain ⟨digits, rfl, decimal⟩ := zero
      rw [unsigned_octal decimal, Option.isSome_map, integer_is_some_iff (by decide)] at read
      -- The digits behind a zero are decimal, so that none of them is a sign.
      rcases read with word | ⟨sign, isSign, rest, rfl, _⟩
      · exact .inl (.octal word)
      · exact absurd decimal.unsigned (not_unsigned isSign rest)
    · rw [unsigned_other marked zero, decimal_is_some_iff] at read
      exact read.imp (fun finite => .decimal finite zero) .decimal

/-- The first sign is taken off, and only the rest decides. -/
theorem with_sign_is_some {sign body : List Char} (known : sign ∈ signs)
    (first : sign = [] → Unsigned body) :
    (withSign? (sign ++ body)).isSome = (unsigned? body).isSome := by
  simp only [signs, List.mem_cons, List.not_mem_nil, or_false] at known
  rcases known with rfl | rfl | rfl
  · cases body with
    | nil => rfl
    | cons c rest =>
        have apart := first rfl c rfl
        simp only [List.mem_cons, List.not_mem_nil, or_false, not_or] at apart
        simp [withSign?, apart]
  · rfl
  · exact Option.isSome_map

/-- A text has one body behind its sign, unless a sign is taken for a part of the body. -/
theorem body_unique {sign other body rest : List Char} (known : sign ∈ signs)
    (otherKnown : other ∈ signs) (first : sign = [] → Unsigned body)
    (otherFirst : other = [] → Unsigned rest) (same : sign ++ body = other ++ rest) :
    body = rest := by
  have read := read_sign_append known first
  rw [same, read_sign_append otherKnown otherFirst] at read
  exact (Prod.mk.inj read).2.symm

theorem SignedBody.not_body {body : List Char} (known : SignedBody body) : ¬Body body := by
  intro plain
  cases known with
  | decimal signed =>
      obtain ⟨sign, isSign, literal, rfl, _⟩ := signed
      exact not_unsigned isSign literal plain.unsigned
  | @marked mark base rest mark_known signed =>
      obtain ⟨sign, isSign, digits, rfl, _⟩ := signed
      cases plain with
      | marked _ word => exact is_digit_not_sign (word.1.2 sign List.mem_cons_self) isSign
      | octal word =>
          exact mark_not_digit mark_known ((octal_is_decimal word.1).2 mark List.mem_cons_self)
      | decimal finite _ => exact finite.unmarked ⟨mark, base, _, mark_known, rfl⟩

theorem with_sign_is_some_iff (text : List Char) :
    (withSign? text).isSome = true ↔ Written text ∨ Resigned text := by
  constructor
  · intro read
    obtain ⟨sign, known, body, rfl, first⟩ := exists_sign text
    rw [with_sign_is_some known first, unsigned_is_some_iff] at read
    exact read.imp (fun plain => ⟨sign, known, body, rfl, plain⟩)
      fun signed => ⟨sign, known, body, rfl, first, signed⟩
  · rintro (⟨sign, known, body, rfl, plain⟩ | ⟨sign, known, body, rfl, first, signed⟩)
    · rw [with_sign_is_some known fun _ => plain.unsigned]
      exact plain.read
    · rw [with_sign_is_some known first]
      exact signed.read

theorem Resigned.not_written {text : List Char} (resigned : Resigned text) : ¬Written text := by
  rintro ⟨other, otherKnown, plainBody, same, plain⟩
  obtain ⟨sign, known, body, rfl, first, signed⟩ := resigned
  have bodies : body = plainBody :=
    body_unique known otherKnown first (fun _ => plain.unsigned) same
  exact signed.not_body (bodies ▸ plain)

theorem read_unquoted {text : String} (unquoted : ¬Quoted text.toList) :
    read? text = withSign? (content text) := by
  have outside : inQuotes? text.toList = none := by
    unfold inQuotes?
    split
    · next rest first =>
        rw [if_neg]
        intro last
        obtain ⟨inner, rfl⟩ := List.getLast?_eq_some_iff.mp last
        exact unquoted ⟨inner, first⟩
    · rfl
  simp only [read?, outside, content]

/-- Outside quotes, the constants are read and so are the texts with a sign too many, which are no
constants. Every other text is refused. -/
theorem constant_accepted_iff (text : String) (unquoted : ¬Quoted text.toList) :
    ((read? text).isSome = true ↔ Written (content text) ∨ Resigned (content text)) ∧
      (Resigned (content text) → ¬Written (content text)) := by
  rw [read_unquoted unquoted]
  exact ⟨with_sign_is_some_iff _, Resigned.not_written⟩

theorem separated_hexadecimal_accepted :
    ¬Quoted "-0x_1F".toList ∧ Written (content "-0x_1F") ∧ (read? "-0x_1F").isSome = true := by
  have unquoted : ¬Quoted "-0x_1F".toList := by
    rintro ⟨inner, same⟩
    cases same
  have mark : ('x', 16) ∈ baseMarks := by decide
  have word : WordText 16 ['1', 'F'] := ⟨by decide, by decide⟩
  have written : Written ['-', '0', 'x', '1', 'F'] := ⟨['-'], by decide, _, rfl, .marked mark word⟩
  exact ⟨unquoted, written, (constant_accepted_iff _ unquoted).1.mpr (.inl written)⟩

/-- Two signs in front of a digit are read, and one behind a base mark is. Neither text is a
constant. -/
theorem second_sign_accepted :
    (¬Quoted "--5".toList ∧ (read? "--5").isSome = true ∧ ¬Written (content "--5")) ∧
      ¬Quoted "0x-5".toList ∧ (read? "0x-5").isSome = true ∧ ¬Written (content "0x-5") := by
  have five : FiniteText ['5'] := by
    have digit : DigitText 10 ['5'] := by decide
    have value : number 10 ['5'] = 5 := by decide
    refine ⟨_, .whole digit .absent, ?_⟩
    calc (number 10 ['5'] : ℚ) * 10 ^ (0 : Int) < 2 ^ (3 : Int) := by norm_num [value]
      _ ≤ 2 ^ (1023 : Int) := zpow_le_zpow_right₀ (by norm_num) (by decide)
      _ ≤ Double.overflow := Double.overflow_bounds.1
  have minusFive : SignedWord 16 ['-', '5'] :=
    ⟨'-', by decide, ['5'], rfl, by decide, .inl (by decide)⟩
  have mark : ('x', 16) ∈ baseMarks := by decide
  have decimal : Resigned ['-', '-', '5'] :=
    ⟨['-'], by decide, ['-', '5'], rfl, nofun,
      .decimal ⟨'-', by decide, ['5'], rfl, five⟩⟩
  have marked : Resigned ['0', 'x', '-', '5'] :=
    ⟨[], by decide, _, rfl, fun _ => by simp [Unsigned], .marked mark minusFive⟩
  have read : ∀ {text : List Char}, Resigned text → (withSign? text).isSome = true :=
    fun resigned => (with_sign_is_some_iff _).mpr (.inr resigned)
  refine ⟨⟨?_, read decimal, decimal.not_written⟩, ?_, read marked, marked.not_written⟩
  · rintro ⟨inner, same⟩
    cases same
  · rintro ⟨inner, same⟩
    cases same

end Language

end TemplateScript.Constant
