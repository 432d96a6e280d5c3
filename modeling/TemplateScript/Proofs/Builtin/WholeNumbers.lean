import TemplateScript.Proofs.Builtin.Directives
import TemplateScript.Proofs.Json.Documents
import TemplateScript.Proofs.Number.Numerals
import TemplateScript.Proofs.Number.Whole
import TemplateScript.Proofs.Text.Units

/-!
Whole numbers formatted and read back.

A whole number is written as its digits behind a sign, or behind a blank that stands for one.
Padding fills up with blanks on either side, or with zeros in front of the digits, and then the text
without its outer blanks still denotes the number. Zeros go behind a sign but not behind the blank:
there the blank ends up between the zeros and the digits, and the text denotes nothing.
-/
namespace TemplateScript.Printf

def blank : UInt16 := Units.unit ' '

def zero : UInt16 := Units.unit '0'

section Padding

def padded (d : Directive) (text : Units) : Units :=
  let count := d.width.getD 0 - text.length
  if d.has '-' then text ++ List.replicate count blank
  else if d.has '0' then
    match text with
    | sign :: rest =>
        if sign = Units.unit '-' ∨ sign = Units.unit '+' then
          sign :: (List.replicate count zero ++ rest)
        else List.replicate count zero ++ text
    | [] => List.replicate count zero
  else List.replicate count blank ++ text

variable {d : Directive} {text : Units}

theorem padded_length : (padded d text).length = max (d.width.getD 0) text.length := by
  unfold padded
  dsimp only
  split
  · simp only [List.length_append, List.length_replicate]
    omega
  · split
    · split
      · split <;>
          simp only [List.length_append, List.length_replicate, List.length_cons] <;> omega
      · simp only [List.length_replicate, List.length_nil]
        omega
    · simp only [List.length_append, List.length_replicate]
      omega

theorem padded_short (enough : d.width.getD 0 ≤ text.length) : padded d text = text := by
  have none : d.width.getD 0 - text.length = 0 := Nat.sub_eq_zero_of_le enough
  unfold padded
  simp only [none, List.replicate_zero, List.nil_append, List.append_nil]
  split
  · rfl
  · split
    · split
      · split <;> rfl
      · rfl
    · rfl

theorem pad_eq (fits : d.width.getD 0 ≤ longest) :
    ∃ segments, pad d text = .ok segments ∧ toUnits segments = padded d text := by
  have limit : longest + 1 < arrayLimit := by decide
  by_cases enough : d.width.getD 0 ≤ text.length
  · refine ⟨[.text text], by simp only [pad, enough, if_true], ?_⟩
    rw [padded_short enough]
    exact List.append_nil text
  · have possible : ¬arrayLimit ≤ d.width.getD 0 - text.length + 1 := by omega
    have short : ¬longest < d.width.getD 0 := by omega
    simp only [pad, padded, enough, possible, short, if_false]
    cases d.has '-' with
    | true => exact ⟨_, rfl, by simp [toUnits, Segment.toUnits, blank]⟩
    | false =>
        cases d.has '0' with
        | false => exact ⟨_, rfl, by simp [toUnits, Segment.toUnits, blank]⟩
        | true =>
            cases text with
            | nil => exact ⟨_, rfl, by simp [toUnits, Segment.toUnits, zero]⟩
            | cons sign rest =>
                by_cases isSign : sign = Units.unit '-' ∨ sign = Units.unit '+'
                · simp [isSign, toUnits, Segment.toUnits, zero]
                · simp [isSign, toUnits, Segment.toUnits, zero]

/-- A width beyond the longest text is refused, as long as the padding could be made at all. -/
theorem pad_refused (long : longest < d.width.getD 0) (possible : d.width.getD 0 + 1 < arrayLimit)
    (short : text.length ≤ longest) : pad d text = .error .stringLength := by
  have more : ¬d.width.getD 0 ≤ text.length := by omega
  have made : ¬arrayLimit ≤ d.width.getD 0 - text.length + 1 := by omega
  simp only [pad, more, made, long, if_false, if_true]

end Padding

section Digits

def digits (n : Nat) : Units :=
  (Nat.toDigits 10 n).map Units.unit

theorem of_chars_ascii {text : List Char} (ascii : ∀ c ∈ text, c.toNat < 0x80) :
    Units.ofChars text = text.map Units.unit := by
  induction text with
  | nil => rfl
  | cons c rest ih =>
      obtain ⟨first, others⟩ := List.forall_mem_cons.mp ascii
      have single : Units.ofChar c = [Units.unit c] := if_pos (by omega)
      rw [Units.of_chars_cons, ih others, single]
      rfl

theorem digit_bounds {c : Char} (digit : c.isDigit = true) : 48 ≤ c.toNat ∧ c.toNat ≤ 57 := by
  simpa [Char.isDigit, UInt32.le_iff_toNat_le] using digit

theorem digits_ascii (n : Nat) : ∀ c ∈ Nat.toDigits 10 n, c.toNat < 0x80 := by
  intro c member
  have bounds := digit_bounds (Json.digits_all n c member)
  omega

theorem unit_digit {c : Char} (digit : c.isDigit = true) :
    Units.unit c ∈ units digitCharacters := by
  obtain ⟨low, high⟩ := digit_bounds digit
  have all : ∀ code < 58, 48 ≤ code →
      Units.unit (Char.ofNat code) ∈ units digitCharacters := by decide
  have found := all c.toNat (by omega) low
  rwa [Char.ofNat_toNat] at found

theorem digits_known (n : Nat) : ∀ u ∈ digits n, u ∈ units digitCharacters := by
  intro u member
  obtain ⟨c, inside, rfl⟩ := List.mem_map.mp member
  exact unit_digit (Json.digits_all n c inside)

theorem unit_inj {c other : Char} (small : c.toNat < 0x80) (smallToo : other.toNat < 0x80)
    (same : Units.unit c = Units.unit other) : c = other := by
  have codes := congrArg UInt16.toNat same
  rw [Units.to_nat_unit (by omega), Units.to_nat_unit (by omega)] at codes
  rw [← Char.ofNat_toNat c, codes, Char.ofNat_toNat]

theorem digits_value_digits (n : Nat) : digitsValue (digits n) = n := by
  have step : ∀ total, ∀ c ∈ Nat.toDigits 10 n,
      10 * total + ((Units.unit c).toNat - '0'.toNat) = 10 * total + Decimal.digitValue c := by
    intro total c member
    rw [Units.to_nat_unit (Nat.lt_trans (digits_ascii n c member) (by decide))]
    rfl
  rw [digitsValue, digits, List.foldl_map]
  calc (Nat.toDigits 10 n).foldl
        (fun total c => 10 * total + ((Units.unit c).toNat - '0'.toNat)) 0
      = Decimal.value (Nat.toDigits 10 n) := List.foldl_ext _ _ _ step
    _ = n := Json.value_to_digits n

theorem digits_length {n : Nat} (exact : n < Double.exactLimit) : (digits n).length ≤ 16 := by
  have limit : Double.exactLimit < 10 ^ 16 := by decide
  rw [digits, List.length_map]
  exact (Nat.length_toDigits_le_iff (by decide) (by decide)).mpr (Nat.lt_trans exact limit)

end Digits

section Layout

def lead (flags : Units) (n : Int) : Units :=
  if n < 0 then [Units.unit '-']
  else if Units.unit '+' ∈ flags then [Units.unit '+']
  else if blank ∈ flags then [blank]
  else []

/-- A text laid out as it should be: blanks, what stands for the sign, zeros, the digits, and
blanks. -/
def Laid (front : Units) (n : Int) (text : Units) : Prop :=
  ∃ before zeros after, text = List.replicate before blank ++ (front ++
    (List.replicate zeros zero ++ (digits n.natAbs ++ List.replicate after blank)))

def ZerosInFront (flags : Units) (width : Nat) (n : Int) : Prop :=
  0 ≤ n ∧ Units.unit '+' ∉ flags ∧ blank ∈ flags ∧ zero ∈ flags ∧ Units.unit '-' ∉ flags ∧
    (digits n.natAbs).length + 1 < width

instance (flags : Units) (width : Nat) (n : Int) : Decidable (ZerosInFront flags width n) :=
  inferInstanceAs (Decidable (_ ∧ _))

variable {d : Directive} {n : Int}

theorem has_iff (d : Directive) (flag : Char) : d.has flag = true ↔ Units.unit flag ∈ d.flags :=
  List.contains_iff_mem

theorem has_not {flag : Char} (absent : Units.unit flag ∉ d.flags) : d.has flag = false :=
  Bool.eq_false_iff.mpr (absent ∘ (has_iff d flag).mp)

theorem lead_length (flags : Units) (n : Int) : (lead flags n).length ≤ 1 := by
  unfold lead
  split
  · exact Nat.le_refl 1
  · split
    · exact Nat.le_refl 1
    · split
      · exact Nat.le_refl 1
      · exact Nat.zero_le 1

theorem units_whole (exact : n.natAbs < Double.exactLimit) :
    units (Double.ofInt n).truncatedText =
      (if n < 0 then [Units.unit '-'] else []) ++ digits n.natAbs := by
  have plain : Units.ofChars (Nat.toDigits 10 n.natAbs) = digits n.natAbs :=
    of_chars_ascii (digits_ascii n.natAbs)
  rw [Double.truncated_text_of_int exact, NumberStyle.withSign, units, String.toList_ofList]
  by_cases negative : n < 0
  · simp only [negative, decide_true, if_true, Units.of_chars_cons, plain]
    rfl
  · simp only [negative, decide_false, Bool.false_eq_true, if_false, plain, List.nil_append]

/-- A flag puts a sign only in front of a number that is not negative. -/
theorem with_sign_whole (exact : n.natAbs < Double.exactLimit) :
    withSign d (Double.ofInt n) (units (Double.ofInt n).truncatedText) =
      lead d.flags n ++ digits n.natAbs := by
  rw [units_whole exact, withSign, Double.zero_le_of_int exact, lead]
  by_cases negative : n < 0
  · have below : ¬0 ≤ n := by omega
    simp only [negative, below, decide_false, Bool.false_eq_true, if_false, if_true]
  · have above : 0 ≤ n := by omega
    by_cases plus : Units.unit '+' ∈ d.flags
    · simp [negative, above, plus, has_iff]
    · by_cases space : blank ∈ d.flags
      · have given : d.has ' ' = true := (has_iff d ' ').mpr space
        simp only [negative, above, plus, space, given, has_iff, decide_true, if_true, if_false]
        rfl
      · have missing : d.has ' ' = false := has_not space
        simp [negative, above, plus, space, missing, has_iff]

/-- A whole number is padded together with its sign or the blank for one. -/
theorem format_whole (exact : n.natAbs < Double.exactLimit) (verb : d.verb = Units.unit 'd') :
    format d (.number (Double.ofInt n)) = pad d (lead d.flags n ++ digits n.natAbs) := by
  have letter : Char.ofNat (Units.unit 'd').toNat = 'd' := by decide
  have number : Value.toNumber (.number (Double.ofInt n)) = .ok (Double.ofInt n) := rfl
  simp only [format, verb, letter, number, ok_bind, with_sign_whole exact]

theorem digits_start (n : Nat) :
    ∃ first rest, digits n = first :: rest ∧ first ∈ units digitCharacters := by
  cases written : digits n with
  | nil => simp [digits] at written
  | cons first rest =>
      refine ⟨first, rest, rfl, digits_known n first ?_⟩
      rw [written]
      exact List.mem_cons_self

theorem digit_apart : ∀ u ∈ units digitCharacters,
    u ≠ Units.unit '-' ∧ u ≠ Units.unit '+' ∧ u ≠ blank := by
  decide

theorem lead_cases (flags : Units) (n : Int) :
    (n < 0 ∧ lead flags n = [Units.unit '-']) ∨
      0 ≤ n ∧ (lead flags n = [Units.unit '+'] ∨ lead flags n = [] ∨
        lead flags n = [blank] ∧ Units.unit '+' ∉ flags ∧ blank ∈ flags) := by
  unfold lead
  split
  · next negative => exact .inl ⟨negative, rfl⟩
  · next positive =>
      refine .inr ⟨by omega, ?_⟩
      split
      · exact .inl rfl
      · next noPlus =>
          split
          · next space => exact .inr (.inr ⟨rfl, noPlus, space⟩)
          · exact .inr (.inl rfl)

theorem lead_blank {flags : Units} (positive : 0 ≤ n) (noPlus : Units.unit '+' ∉ flags)
    (space : blank ∈ flags) : lead flags n = [blank] := by
  have negative : ¬n < 0 := by omega
  simp only [lead, negative, noPlus, space, if_false, if_true]

/-- Where zeros are filled in, they go behind a sign and in front of everything else. -/
theorem padded_zeros (minus : Units.unit '-' ∉ d.flags) (zeros : zero ∈ d.flags)
    (first : UInt16) (rest : Units) :
    padded d (first :: rest) =
      if first = Units.unit '-' ∨ first = Units.unit '+' then
        first :: (List.replicate (d.width.getD 0 - (rest.length + 1)) zero ++ rest)
      else List.replicate (d.width.getD 0 - (rest.length + 1)) zero ++ first :: rest := by
  have left : d.has '-' = false := has_not minus
  have filled : d.has '0' = true := (has_iff d '0').mpr zeros
  simp only [padded, left, filled, Bool.false_eq_true, if_false, if_true, List.length_cons]

theorem laid_long (enough : d.width.getD 0 ≤ (lead d.flags n ++ digits n.natAbs).length) :
    Laid (lead d.flags n) n (padded d (lead d.flags n ++ digits n.natAbs)) := by
  refine ⟨0, 0, 0, ?_⟩
  rw [padded_short enough]
  simp

theorem laid_left (minus : Units.unit '-' ∈ d.flags) :
    Laid (lead d.flags n) n (padded d (lead d.flags n ++ digits n.natAbs)) := by
  refine ⟨0, 0, d.width.getD 0 - (lead d.flags n ++ digits n.natAbs).length, ?_⟩
  have left : d.has '-' = true := (has_iff d '-').mpr minus
  simp only [padded, left, if_true, List.replicate_zero, List.nil_append, List.append_assoc]

theorem laid_right (minus : Units.unit '-' ∉ d.flags) (zeros : zero ∉ d.flags) :
    Laid (lead d.flags n) n (padded d (lead d.flags n ++ digits n.natAbs)) := by
  refine ⟨d.width.getD 0 - (lead d.flags n ++ digits n.natAbs).length, 0, 0, ?_⟩
  have left : d.has '-' = false := has_not minus
  have filled : d.has '0' = false := has_not zeros
  simp only [padded, left, filled, Bool.false_eq_true, if_false, List.replicate_zero,
    List.nil_append, List.append_nil]

theorem laid_behind_sign (minus : Units.unit '-' ∉ d.flags) (zeros : zero ∈ d.flags)
    {sign : UInt16} (only : lead d.flags n = [sign])
    (isSign : sign = Units.unit '-' ∨ sign = Units.unit '+') :
    Laid (lead d.flags n) n (padded d (lead d.flags n ++ digits n.natAbs)) := by
  refine ⟨0, d.width.getD 0 - ((digits n.natAbs).length + 1), 0, ?_⟩
  rw [only, List.singleton_append, padded_zeros minus zeros, if_pos isSign]
  simp

theorem laid_in_front (minus : Units.unit '-' ∉ d.flags) (zeros : zero ∈ d.flags)
    (none : lead d.flags n = []) :
    Laid (lead d.flags n) n (padded d (lead d.flags n ++ digits n.natAbs)) := by
  obtain ⟨first, rest, start, digit⟩ := digits_start n.natAbs
  obtain ⟨notMinus, notPlus, _⟩ := digit_apart first digit
  refine ⟨0, d.width.getD 0 - (rest.length + 1), 0, ?_⟩
  rw [none, start, List.nil_append, padded_zeros minus zeros,
    if_neg (not_or.mpr ⟨notMinus, notPlus⟩)]
  simp

theorem laid_unless_misplaced (placed : ¬ZerosInFront d.flags (d.width.getD 0) n) :
    Laid (lead d.flags n) n (padded d (lead d.flags n ++ digits n.natAbs)) := by
  by_cases enough : d.width.getD 0 ≤ (lead d.flags n ++ digits n.natAbs).length
  · exact laid_long enough
  by_cases minus : Units.unit '-' ∈ d.flags
  · exact laid_left minus
  by_cases zeros : zero ∈ d.flags
  · rcases lead_cases d.flags n with ⟨_, only⟩ | ⟨positive, only | none | ⟨only, noPlus, space⟩⟩
    · exact laid_behind_sign minus zeros only (.inl rfl)
    · exact laid_behind_sign minus zeros only (.inr rfl)
    · exact laid_in_front minus zeros none
    · rw [only, List.singleton_append, List.length_cons] at enough
      exact absurd ⟨positive, noPlus, space, zeros, minus, by omega⟩ placed
  · exact laid_right minus zeros

theorem blank_misplaced (misplaced : ZerosInFront d.flags (d.width.getD 0) n) :
    ∃ count, padded d (lead d.flags n ++ digits n.natAbs) =
      List.replicate (count + 1) zero ++ blank :: digits n.natAbs := by
  obtain ⟨positive, noPlus, space, zeros, minus, wide⟩ := misplaced
  have apart : ¬(blank = Units.unit '-' ∨ blank = Units.unit '+') := by decide
  refine ⟨d.width.getD 0 - ((digits n.natAbs).length + 1) - 1, ?_⟩
  rw [lead_blank positive noPlus space, List.singleton_append, padded_zeros minus zeros,
    if_neg apart, Nat.sub_add_cancel (by omega)]

/-- The text is laid out well, or the blank stands behind the zeros. -/
theorem padded_whole (d : Directive) (n : Int) :
    (¬ZerosInFront d.flags (d.width.getD 0) n ∧
      Laid (lead d.flags n) n (padded d (lead d.flags n ++ digits n.natAbs))) ∨
    ZerosInFront d.flags (d.width.getD 0) n ∧ ∃ count,
      padded d (lead d.flags n ++ digits n.natAbs) =
        List.replicate (count + 1) zero ++ blank :: digits n.natAbs := by
  by_cases misplaced : ZerosInFront d.flags (d.width.getD 0) n
  · exact .inr ⟨misplaced, blank_misplaced misplaced⟩
  · exact .inl ⟨misplaced, laid_unless_misplaced misplaced⟩

end Layout

section Reading

def stripped (text : Units) : Units :=
  ((text.dropWhile (· = blank)).reverse.dropWhile (· = blank)).reverse

def Denotes (text : Units) (n : Int) : Prop :=
  ∃ sign ∈ Numeral.signs, ∃ written, Numeral.DigitText 10 written ∧
    text = (sign ++ written).map Units.unit ∧
    n = if sign = ['-'] then -(Numeral.number 10 written : Int) else Numeral.number 10 written

theorem stripped_between {inner : Units} (filled : inner ≠ [])
    (first : ∀ u ∈ inner.head?, u ≠ blank) (last : ∀ u ∈ inner.getLast?, u ≠ blank)
    (before after : Nat) :
    stripped (List.replicate before blank ++ (inner ++ List.replicate after blank)) = inner := by
  have blanks (count : Nat) :
      ∀ u ∈ List.replicate count blank, decide (u = blank) = true := by
    intro u member
    exact decide_eq_true (List.eq_of_mem_replicate member)
  have front : ∀ u ∈ (inner ++ List.replicate after blank).head?, decide (u = blank) = false := by
    intro u start
    rw [List.head?_append_of_ne_nil _ filled] at start
    exact decide_eq_false (first u start)
  have back : ∀ u ∈ inner.reverse.head?, decide (u = blank) = false := by
    intro u start
    rw [List.head?_reverse] at start
    exact decide_eq_false (last u start)
  rw [stripped, (run_exact (blanks before) front).2, List.reverse_append, List.reverse_replicate,
    (run_exact (blanks after) back).2, List.reverse_reverse]

theorem apart_from_blank {sign written : List Char} (known : sign ∈ Numeral.signs)
    (decimal : Numeral.DigitText 10 written) :
    ∀ u ∈ (sign ++ written).map Units.unit, u ≠ blank := by
  have signs : ∀ sign ∈ Numeral.signs, blank ∉ sign.map Units.unit := by decide
  intro u member
  rw [List.map_append] at member
  rcases List.mem_append.mp member with mark | digit
  · exact ne_of_mem_of_not_mem mark (signs sign known)
  · obtain ⟨c, inside, rfl⟩ := List.mem_map.mp digit
    have isDigit := ((Numeral.digit_text_ten_iff written).mp decimal).2 c inside
    exact (digit_apart _ (unit_digit isDigit)).2.2

theorem digit_text_zeros (count n : Nat) :
    Numeral.DigitText 10 (List.replicate count '0' ++ Nat.toDigits 10 n) := by
  rw [Numeral.digit_text_ten_iff]
  refine ⟨by simp, ?_⟩
  intro c member
  rcases List.mem_append.mp member with zero | digit
  · rw [List.eq_of_mem_replicate zero]
    rfl
  · exact Json.digits_all n c digit

/-- Blanks around a sign, zeros and digits are all that is to be removed. -/
theorem denotes_between (sign : List Char) (known : sign ∈ Numeral.signs) {n : Int}
    (signed : sign = ['-'] ↔ n < 0) (before zeros after : Nat) :
    Denotes (stripped (List.replicate before blank ++ (sign.map Units.unit ++
      (List.replicate zeros zero ++ (digits n.natAbs ++ List.replicate after blank))))) n := by
  have decimal := digit_text_zeros zeros n.natAbs
  have apart := apart_from_blank known decimal
  have inner : sign.map Units.unit ++ (List.replicate zeros zero ++
      (digits n.natAbs ++ List.replicate after blank)) =
      (sign ++ (List.replicate zeros '0' ++ Nat.toDigits 10 n.natAbs)).map Units.unit ++
        List.replicate after blank := by
    simp only [List.map_append, List.map_replicate, List.append_assoc]
    rfl
  rw [inner, stripped_between (by simp)
    (fun u start => apart u (List.mem_of_mem_head? start))
    (fun u final => apart u (List.mem_of_getLast? final))]
  refine ⟨sign, known, _, decimal, rfl, ?_⟩
  rw [Numeral.number_zeros, Numeral.number_to_digits]
  by_cases negative : n < 0
  · rw [if_pos (signed.mpr negative)]
    omega
  · rw [if_neg (negative ∘ signed.mp)]
    omega

theorem Laid.denotes {flags text : Units} {n : Int} (laid : Laid (lead flags n) n text) :
    Denotes (stripped text) n := by
  obtain ⟨before, zeros, after, rfl⟩ := laid
  rcases lead_cases flags n with ⟨negative, only⟩ | ⟨positive, only | only | ⟨only, _⟩⟩
  · rw [only]
    exact denotes_between ['-'] (by decide) (by simpa using negative) before zeros after
  · rw [only]
    exact denotes_between ['+'] (by decide) (by simpa using positive) before zeros after
  · rw [only]
    exact denotes_between [] (by decide) (by simpa using positive) before zeros after
  · -- the blank in place of a sign is removed with the others
    have more : List.replicate before blank ++ ([blank] ++ (List.replicate zeros zero ++
        (digits n.natAbs ++ List.replicate after blank))) =
        List.replicate (before + 1) blank ++ ([] ++ (List.replicate zeros zero ++
          (digits n.natAbs ++ List.replicate after blank))) := by
      rw [List.replicate_succ', List.append_assoc, List.nil_append]
    rw [only, more]
    exact denotes_between [] (by decide) (by simpa using positive) (before + 1) zeros after

/-- A blank between zeros and digits is not removed, and then no number is denoted. -/
theorem blank_inside_not_denotes (count m : Nat) (n : Int) :
    ¬Denotes (stripped (List.replicate (count + 1) zero ++ blank :: digits m)) n := by
  rintro ⟨sign, known, written, decimal, same, _⟩
  obtain ⟨first, rest, start, _⟩ := digits_start m
  have inner : stripped (List.replicate (count + 1) zero ++ blank :: digits m) =
      List.replicate (count + 1) zero ++ blank :: digits m := by
    have ends (text : Units) :
        List.replicate 0 blank ++ (text ++ List.replicate 0 blank) = text := by
      simp
    nth_rewrite 1 [← ends (List.replicate (count + 1) zero ++ blank :: digits m)]
    apply stripped_between (by simp)
    · intro u front
      rw [List.replicate_succ, List.cons_append, List.head?_cons, Option.mem_some] at front
      subst front
      decide
    · intro u final
      rw [List.getLast?_append_of_ne_nil _ (by simp), start, List.getLast?_cons_cons, ← start]
        at final
      exact (digit_apart u (digits_known m u (List.mem_of_getLast? final))).2.2
  have inside : blank ∈ (sign ++ written).map Units.unit := by
    rw [← same, inner]
    simp
  exact apart_from_blank known decimal blank inside rfl

/-- A padded number denotes itself, unless the blank for its sign stands behind zeros. -/
theorem padded_reads_back (d : Directive) (n : Int) :
    (¬ZerosInFront d.flags (d.width.getD 0) n →
      Laid (lead d.flags n) n (padded d (lead d.flags n ++ digits n.natAbs)) ∧
        Denotes (stripped (padded d (lead d.flags n ++ digits n.natAbs))) n) ∧
    (ZerosInFront d.flags (d.width.getD 0) n →
      ¬Denotes (stripped (padded d (lead d.flags n ++ digits n.natAbs))) n ∧ ∃ count,
        padded d (lead d.flags n ++ digits n.natAbs) =
          List.replicate (count + 1) zero ++ blank :: digits n.natAbs) := by
  rcases padded_whole d n with ⟨fine, laid⟩ | ⟨misplaced, count, shown⟩
  · exact ⟨fun _ => ⟨laid, laid.denotes⟩, fun misplaced => absurd misplaced fine⟩
  · refine ⟨fun fine => absurd misplaced fine, fun _ => ⟨?_, count, shown⟩⟩
    rw [shown]
    exact blank_inside_not_denotes count n.natAbs n

end Reading

section Directive

theorem width_known (width : Option Nat) :
    ∀ u ∈ width.elim [] digits, u ∈ units digitCharacters := by
  cases width with
  | none => exact List.forall_mem_nil _
  | some w => exact digits_known w

theorem no_precision : ∀ digits ∈ (none : Option Units),
    digits ≠ [] ∧ ∀ u ∈ digits, u ∈ units digitCharacters :=
  nofun

theorem whole_verb_known : Units.unit 'd' ∈ units verbCharacters := by
  decide

/-- The directive of a whole number with flags and a width, if any. -/
def wholeSpelling (flags : Units) (known : ∀ u ∈ flags, u ∈ units flagCharacters)
    (width : Option Nat) : Spelling where
  flags := flags
  width := width.elim [] digits
  precision := none
  verb := Units.unit 'd'
  flags_known := known
  width_digits := width_known width
  precision_digits := no_precision
  verb_known := whole_verb_known

variable {flags : Units} (known : ∀ u ∈ flags, u ∈ units flagCharacters) (width : Option Nat)

/-- The width is read as it was meant; written as a zero it is a flag, which then has no effect. -/
theorem whole_spelling_directive :
    (wholeSpelling flags known width).directive.width.getD 0 = width.getD 0 ∧
    ((wholeSpelling flags known width).directive.flags = flags ∨
      width.getD 0 = 0 ∧ (wholeSpelling flags known width).directive.flags = flags ++ [zero]) := by
  cases width with
  | none =>
      refine ⟨rfl, .inl ?_⟩
      exact List.append_nil flags
  | some w =>
      rcases Json.to_digits_start w with rfl | ⟨c, rest, start, other⟩
      · exact ⟨rfl, .inr ⟨rfl, rfl⟩⟩
      · have nonzero : ¬Units.unit c = Units.unit '0' := by
          intro same
          have small := digits_ascii w c (by rw [start]; exact List.mem_cons_self)
          exact other (unit_inj small (by decide) same)
        have written : digits w = Units.unit c :: rest.map Units.unit := by
          rw [digits, start, List.map_cons]
        have zeros : (wholeSpelling flags known (some w)).zeros = [] := by
          simp [Spelling.zeros, wholeSpelling, written, nonzero]
        have number : (wholeSpelling flags known (some w)).number = digits w := by
          simp [Spelling.number, wholeSpelling, written, nonzero]
        have found : number? (digits w) = some w := by
          rw [number?, digits_value_digits, written]
          rfl
        constructor
        · simp only [Spelling.directive, number, found, Option.getD_some]
        · left
          exact (congrArg (flags ++ ·) zeros).trans (List.append_nil flags)

/-- The flag that is read from a width of zero changes nothing. -/
theorem whole_spelling_alike (n : Int) :
    lead (wholeSpelling flags known width).directive.flags n = lead flags n ∧
    (ZerosInFront (wholeSpelling flags known width).directive.flags (width.getD 0) n ↔
      ZerosInFront flags (width.getD 0) n) := by
  have apart : Units.unit '+' ≠ zero ∧ blank ≠ zero := by decide
  rcases (whole_spelling_directive known width).2 with same | ⟨none, more⟩
  · rw [same]
    exact ⟨rfl, Iff.rfl⟩
  · constructor
    · simp only [more, lead, List.mem_append, List.mem_singleton, apart, or_false]
    · rw [none]
      constructor
      · rintro ⟨_, _, _, _, _, wide⟩
        exact absurd wide (Nat.not_lt_zero _)
      · rintro ⟨_, _, _, _, _, wide⟩
        exact absurd wide (Nat.not_lt_zero _)

def wholeFormat (flags : Units) (width : Option Nat) : Units :=
  units "%" ++ flags ++ width.elim [] digits ++ units "d"

theorem printf_whole {n : Int} (exact : n.natAbs < Double.exactLimit) :
    printf [.string (wholeFormat flags width), .number (Double.ofInt n)] =
      (pad (wholeSpelling flags known width).directive (lead flags n ++ digits n.natAbs) >>=
        fun segments => bounded (toUnits segments)) := by
  have text : wholeFormat flags width = (wholeSpelling flags known width).text := by
    have percent : units "%" = [Units.unit '%'] := by decide
    have letter : units "d" = [Units.unit 'd'] := by decide
    simp [wholeFormat, wholeSpelling, Spelling.text, Spelling.body, Spelling.pointed, percent,
      letter]
  have apart : Units.unit 'd' ≠ Units.unit '%' := by decide
  have takes : (wholeSpelling flags known width).takes = true := decide_eq_true apart
  rw [text, Spelling.printf_alone takes, format_whole exact rfl,
    (whole_spelling_alike known width n).1]

/-- A whole number that is formatted with any flags and any width fills the width and, without the
blanks around it, denotes itself: a sign goes first, and zeros between it and the digits. The one
exception is a blank in place of the sign, where the zeros go in front of the blank and the text
denotes nothing. Only a width that no text can have is refused. -/
theorem whole_number_reads_back {n : Int} (exact : n.natAbs < 2 ^ 53) {flags : Units}
    (known : ∀ u ∈ flags, u ∈ units flagCharacters) {width : Option Nat}
    (moderate : width.getD 0 < 2 ^ 31) :
    (longest < width.getD 0 →
      printf [.string (wholeFormat flags width), .number (Double.ofInt n)] =
        .error .stringLength) ∧
    (width.getD 0 ≤ longest → ∃ text,
      printf [.string (wholeFormat flags width), .number (Double.ofInt n)] = .ok text ∧
      width.getD 0 ≤ text.length ∧
      (¬ZerosInFront flags (width.getD 0) n →
        Laid (lead flags n) n text ∧ Denotes (stripped text) n) ∧
      (ZerosInFront flags (width.getD 0) n → ¬Denotes (stripped text) n ∧ ∃ count,
        text = List.replicate (count + 1) zero ++ blank :: digits n.natAbs)) := by
  have meant := (whole_spelling_directive known width).1
  obtain ⟨sameLead, alike⟩ := whole_spelling_alike known width n
  have short : (lead flags n ++ digits n.natAbs).length ≤ 17 := by
    have front := lead_length flags n
    have behind := digits_length exact
    rw [List.length_append]
    omega
  have limits : 17 ≤ longest ∧ 2 ^ 31 + 1 ≤ arrayLimit := by decide
  rw [printf_whole known width exact, ← meant]
  rw [← meant] at moderate
  generalize (wholeSpelling flags known width).directive = d at *
  constructor
  · intro long
    rw [pad_refused long (by omega) (by omega)]
    rfl
  · intro fits
    obtain ⟨segments, made, same⟩ :
        ∃ segments, pad d (lead flags n ++ digits n.natAbs) = .ok segments ∧
          toUnits segments = padded d (lead flags n ++ digits n.natAbs) := pad_eq fits
    have size : (padded d (lead flags n ++ digits n.natAbs)).length =
        max (d.width.getD 0) (lead flags n ++ digits n.natAbs).length := padded_length
    have possible : ¬longest < (padded d (lead flags n ++ digits n.natAbs)).length := by omega
    refine ⟨padded d (lead flags n ++ digits n.natAbs), ?_, by omega, ?_⟩
    · rw [made, ok_bind, same, bounded, if_neg possible]
    · have back := padded_reads_back d n
      rw [sameLead, meant, alike] at back
      rw [meant]
      exact back

theorem signed_number_reads_back :
    (-42 : Int).natAbs < 2 ^ 53 ∧ (∀ u ∈ units "#0+", u ∈ units flagCharacters) ∧
    (some 7).getD 0 < 2 ^ 31 ∧ wholeFormat (units "#0+") (some 7) = units "%#0+7d" ∧
    ∃ text, printf [.string (wholeFormat (units "#0+") (some 7)), .number (Double.ofInt (-42))] =
        .ok text ∧
      7 ≤ text.length ∧ Laid (units "-") (-42) text ∧ Denotes (stripped text) (-42) := by
  have exact : (-42 : Int).natAbs < 2 ^ 53 := by decide
  have known : ∀ u ∈ units "#0+", u ∈ units flagCharacters := by decide
  have moderate : (some 7).getD 0 < 2 ^ 31 := by decide
  obtain ⟨text, formatted, wide, fine, _⟩ :=
    (whole_number_reads_back exact known moderate).2 (by decide)
  obtain ⟨laid, denotes⟩ := fine (by decide)
  exact ⟨exact, known, moderate, by decide, text, formatted, wide, laid, denotes⟩

/-- With a blank for the sign, zeros stand in front of it. -/
theorem blank_behind_zeros :
    printf [.string (units "% 05d"), .number (Double.ofInt 5)] = .ok (units "000 5") ∧
    ¬Denotes (stripped (units "000 5")) 5 := by
  have parts : units "000 5" = List.replicate (2 + 1) zero ++ blank :: digits 5 := by decide
  refine ⟨by decide +kernel, ?_⟩
  rw [parts]
  exact blank_inside_not_denotes 2 5 5

end Directive

end TemplateScript.Printf
