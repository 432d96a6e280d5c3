import TemplateScript.Builtin.Call
import TemplateScript.Proofs.Checked.Inversion
import TemplateScript.Proofs.Text.Units

/-!
Formatting one directive after the other.

A format that is put together from literal texts and directives is split into just these again,
because no unit in front of a verb can be a verb. So each directive is on its own: it gives what it
gives when it is the whole format and its argument is the only one, and nothing that was written is
looked at again.
-/
namespace TemplateScript.Printf

def flagCharacters : String := "-+ 0#"

def digitCharacters : String := "0123456789"

def verbCharacters : String := "ABCDEFGHIJKLMNOPQRSTUVWXYZabcdefghijklmnopqrstuvwxyz%"

/-- A directive as it is written. The width may be missing and is then empty. -/
structure Spelling where
  flags : Units
  width : Units
  precision : Option Units
  verb : UInt16
  flags_known : ∀ u ∈ flags, u ∈ units flagCharacters
  width_digits : ∀ u ∈ width, u ∈ units digitCharacters
  precision_digits : ∀ digits ∈ precision, digits ≠ [] ∧ ∀ u ∈ digits, u ∈ units digitCharacters
  verb_known : verb ∈ units verbCharacters

inductive Part
  | literal (text : Units) (plain : Units.unit '%' ∉ text)
  | directive (spelling : Spelling)

namespace Spelling

variable (d : Spelling)

def pointed : Units :=
  match d.precision with
  | none => []
  | some digits => Units.unit '.' :: digits

def body : Units :=
  d.flags ++ (d.width ++ (d.pointed ++ [d.verb]))

def text : Units :=
  Units.unit '%' :: d.body

def takes : Bool :=
  d.verb ≠ Units.unit '%'

/-- What the directive gives when it is the whole format and its argument is the only one. -/
def alone : Option Value → Except Fault Units
  | some value => printf [.string d.text, value]
  | none => .ok (units "%!" ++ [d.verb] ++ units "(MISSING)")

end Spelling

namespace Part

def text : Part → Units
  | .literal text _ => text
  | .directive d => d.text

def takes : Part → Bool
  | .literal _ _ => false
  | .directive d => d.takes

end Part

def formatOf (parts : List Part) : Units :=
  parts.flatMap Part.text

/-- What each part gives by itself, when the arguments are taken from a position on. -/
def outcomes (args : List Value) : Nat → List Part → List (Except Fault Units)
  | _, [] => []
  | position, .literal text _ :: rest => .ok text :: outcomes args position rest
  | position, .directive d :: rest =>
      if d.takes then d.alone args[position]? :: outcomes args (position + 1) rest
      else .ok [Units.unit '%'] :: outcomes args position rest

section Reading

theorem flag_of_known : ∀ u ∈ units flagCharacters, isFlag u = true := by
  decide

/-- Of the digits only zero is a flag too. -/
theorem digit_of_known : ∀ u ∈ units digitCharacters,
    Units.isDigit u = true ∧ (isFlag u = true → u = Units.unit '0') := by
  decide

theorem zero_flag : isFlag (Units.unit '0') = true := by
  decide

theorem verb_of_known : ∀ u ∈ units verbCharacters,
    isVerb u = true ∧ isFlag u = false ∧ Units.isDigit u = false ∧ u ≠ Units.unit '.' := by
  decide +kernel

theorem point_apart :
    isFlag (Units.unit '.') = false ∧ Units.isDigit (Units.unit '.') = false := by
  decide

def number? (digits : Units) : Option Nat :=
  if digits.isEmpty then none else some (digitsValue digits)

theorem read_number_append {digits rest : Units} (all : ∀ u ∈ digits, Units.isDigit u = true)
    (stop : ∀ u ∈ rest.head?, Units.isDigit u = false) :
    readNumber (digits ++ rest) = (number? digits, rest) := by
  obtain ⟨front, behind⟩ := run_exact all stop
  rw [readNumber, front, behind]
  cases digits with
  | nil => rfl
  | cons u others => rfl

variable (d : Spelling)

def Spelling.zeros : Units := d.width.takeWhile (· = Units.unit '0')

def Spelling.number : Units := d.width.dropWhile (· = Units.unit '0')

def Spelling.directive : Directive :=
  ⟨d.flags ++ d.zeros, number? d.number, d.precision.map digitsValue, d.verb⟩

@[simp] theorem Spelling.directive_verb : d.directive.verb = d.verb := rfl

theorem Spelling.behind_width (rest : Units) :
    ∀ u ∈ (d.pointed ++ d.verb :: rest).head?, isFlag u = false ∧ Units.isDigit u = false := by
  obtain ⟨_, flag, digit, _⟩ := verb_of_known d.verb d.verb_known
  intro u first
  unfold Spelling.pointed at first
  split at first
  · cases first
    exact ⟨flag, digit⟩
  · cases first
    exact point_apart

theorem Spelling.behind_zeros (rest : Units) :
    ∀ u ∈ (d.number ++ (d.pointed ++ d.verb :: rest)).head?, isFlag u = false := by
  intro u first
  cases number : d.number with
  | nil =>
      rw [number, List.nil_append] at first
      exact (d.behind_width rest u first).1
  | cons digit others =>
      rw [number, List.cons_append, List.head?_cons, Option.mem_some] at first
      subst first
      have nonzero : ¬digit = Units.unit '0' := by
        have stopped := List.head?_dropWhile_not (· = Units.unit '0') d.width
        rw [← Spelling.number, number] at stopped
        simpa using stopped
      have member : digit ∈ d.width := by
        apply (List.dropWhile_sublist _).subset
        rw [← Spelling.number, number]
        exact List.mem_cons_self
      exact Bool.eq_false_iff.mpr fun flag =>
        nonzero ((digit_of_known digit (d.width_digits digit member)).2 flag)

theorem Spelling.all_flags : ∀ u ∈ d.flags ++ d.zeros, isFlag u = true := by
  intro u member
  rcases List.mem_append.mp member with flag | zero
  · exact flag_of_known u (d.flags_known u flag)
  · have same : u = Units.unit '0' := by simpa using List.mem_takeWhile_imp zero
    rw [same]
    exact zero_flag

theorem Spelling.read_precision (rest : Units) :
    readPrecision (d.pointed ++ d.verb :: rest) =
      (d.precision.map digitsValue, d.verb :: rest) := by
  obtain ⟨_, _, notDigit, notPoint⟩ := verb_of_known d.verb d.verb_known
  cases written : d.precision with
  | none => simp [Spelling.pointed, written, readPrecision, notPoint]
  | some digits =>
      obtain ⟨filled, all⟩ := d.precision_digits digits written
      have read : readNumber (digits ++ d.verb :: rest) = (number? digits, d.verb :: rest) :=
        read_number_append (fun u member => (digit_of_known u (all u member)).1)
          (by simpa using notDigit)
      have found : number? digits = some (digitsValue digits) := by
        simp [number?, List.isEmpty_iff, filled]
      simp [Spelling.pointed, written, readPrecision, read, found]

theorem Spelling.read (rest : Units) :
    readDirective? (d.body ++ rest) = some (d.directive, rest) := by
  have parts : d.body ++ rest =
      (d.flags ++ d.zeros) ++ (d.number ++ (d.pointed ++ d.verb :: rest)) := by
    have width : d.zeros ++ d.number = d.width := List.takeWhile_append_dropWhile
    simp only [Spelling.body, ← width, List.append_assoc, List.singleton_append]
  obtain ⟨front, behind⟩ := run_exact d.all_flags (d.behind_zeros rest)
  have digits : ∀ u ∈ d.number, Units.isDigit u = true := by
    intro u member
    exact (digit_of_known u (d.width_digits u ((List.dropWhile_sublist _).subset member))).1
  have number := read_number_append digits fun u first => (d.behind_width rest u first).2
  have verb := (verb_of_known d.verb d.verb_known).1
  rw [parts, readDirective?, front, behind, number]
  simp only [d.read_precision rest, verb, if_true]
  rfl

end Reading

section Splitting

theorem read_number_length (text : Units) : (readNumber text).2.length ≤ text.length := by
  unfold readNumber
  split
  · exact Nat.le_refl _
  · exact (List.dropWhile_sublist _).length_le

theorem read_precision_length (text : Units) : (readPrecision text).2.length ≤ text.length := by
  unfold readPrecision
  split
  · next point rest =>
      split
      · have shorter := read_number_length rest
        split
        · next found =>
            rw [found] at shorter
            exact Nat.le_succ_of_le shorter
        · exact Nat.le_refl _
      · exact Nat.le_refl _
  · exact Nat.le_refl _

theorem read_directive_shorter {text rest : Units} {d : Directive}
    (read : readDirective? text = some (d, rest)) : rest.length < text.length := by
  have flags : (text.dropWhile isFlag).length ≤ text.length := (List.dropWhile_sublist _).length_le
  have width := read_number_length (text.dropWhile isFlag)
  have precision := read_precision_length (readNumber (text.dropWhile isFlag)).2
  unfold readDirective? at read
  dsimp only at read
  split at read
  · next verb others found =>
      split at read
      · cases read
        rw [found, List.length_cons] at precision
        omega
      · cases read
  · cases read

theorem split_fuel {fuel other : Nat} {text : Units} (enough : text.length ≤ fuel)
    (enoughToo : text.length ≤ other) : split fuel text = split other text := by
  induction fuel generalizing other text with
  | zero =>
      obtain rfl := List.length_eq_zero_iff.mp (Nat.le_zero.mp enough)
      cases other <;> rfl
  | succ fuel ih =>
      cases text with
      | nil => cases other <;> rfl
      | cons u rest =>
          cases other with
          | zero => exact absurd enoughToo (Nat.not_succ_le_zero _)
          | succ other =>
              rw [List.length_cons, Nat.succ_le_succ_iff] at enough enoughToo
              simp only [split]
              rw [ih enough enoughToo]
              cases read : readDirective? rest with
              | none => rfl
              | some found =>
                  have shorter := read_directive_shorter read
                  have later : split fuel found.2 = split other found.2 :=
                    ih (by omega) (by omega)
                  simp only [later]

theorem pieces_unit {u : UInt16} (plain : u ≠ Units.unit '%') (rest : Units) :
    pieces (u :: rest) = .unit u :: pieces rest := by
  simp only [pieces, List.length_cons, split, plain, if_false]

theorem pieces_directive (d : Spelling) (rest : Units) :
    pieces (d.text ++ rest) = .directive d.directive :: pieces rest := by
  have size : (d.text ++ rest).length = (d.body ++ rest).length + 1 := rfl
  have shorter := read_directive_shorter (d.read rest)
  rw [pieces, size]
  simp only [Spelling.text, List.cons_append, split, if_true, d.read rest]
  rw [split_fuel (Nat.le_of_lt shorter) (Nat.le_refl rest.length)]
  rfl

theorem pieces_literal {text : Units} (plain : Units.unit '%' ∉ text) (rest : Units) :
    pieces (text ++ rest) = text.map .unit ++ pieces rest := by
  induction text with
  | nil => rfl
  | cons u others ih =>
      obtain ⟨apart, later⟩ := not_or.mp (List.mem_cons.not.mp plain)
      rw [List.cons_append, pieces_unit (Ne.symm apart), ih later]
      rfl

def Part.pieces : Part → List Piece
  | .literal text _ => text.map .unit
  | .directive d => [.directive d.directive]

/-- A format is split into the parts that it was put together from. -/
theorem pieces_format_of (parts : List Part) :
    Printf.pieces (formatOf parts) = parts.flatMap Part.pieces := by
  induction parts with
  | nil => rfl
  | cons part rest ih =>
      rw [formatOf, List.flatMap_cons, List.flatMap_cons, ← ih]
      cases part with
      | literal text plain => exact pieces_literal plain (formatOf rest)
      | directive d => exact pieces_directive d (formatOf rest)

end Splitting

section Writing

theorem length_eq (segments : List Segment) : length segments = (toUnits segments).length := by
  induction segments with
  | nil => rfl
  | cons segment rest ih =>
      have first : segment.length = segment.toUnits.length := by
        cases segment <;> simp [Segment.length, Segment.toUnits]
      simp only [length, toUnits, List.foldr_cons, List.flatMap_cons, List.length_append] at ih ⊢
      rw [ih, first]

theorem to_units_append (first second : List Segment) :
    toUnits (first ++ second) = toUnits first ++ toUnits second :=
  List.flatMap_append

/-- A text that is too long for the language is no result. -/
def bounded (text : Units) : Except Fault Units :=
  if longest < text.length then .error .stringLength else .ok text

theorem join_eq (segments : List Segment) : join segments = bounded (toUnits segments) := by
  rw [join, bounded, length_eq]

def Piece.takes : Piece → Bool
  | .unit _ => false
  | .directive d => d.verb ≠ Units.unit '%'

def Writes (pieces : List Piece) (args : List Value) (text : Units) : Prop :=
  ∃ segments, write pieces args = .ok segments ∧ toUnits segments = text

variable {pieces : List Piece} {args : List Value} {text : Units}

theorem Writes.literal (rest : Writes pieces args text) (front : Units) :
    Writes (front.map .unit ++ pieces) args (front ++ text) := by
  induction front with
  | nil => exact rest
  | cons u others ih =>
      obtain ⟨segments, written, same⟩ := ih
      refine ⟨.text [u] :: segments, ?_, ?_⟩
      · simp only [List.map_cons, List.cons_append, write, written, ok_bind, pure_eq_ok]
      · rw [List.cons_append, ← same]
        rfl

theorem Writes.percent (rest : Writes pieces args text) {d : Directive}
    (percent : d.verb = Units.unit '%') :
    Writes (.directive d :: pieces) args (Units.unit '%' :: text) := by
  obtain ⟨segments, written, same⟩ := rest
  refine ⟨.text [Units.unit '%'] :: segments, ?_, ?_⟩
  · simp only [write, percent, if_true, written, ok_bind, pure_eq_ok]
  · rw [← same]
    rfl

theorem Writes.missing (rest : Writes pieces [] text) {d : Directive}
    (other : d.verb ≠ Units.unit '%') :
    Writes (.directive d :: pieces) [] (Printf.missing d ++ text) := by
  obtain ⟨segments, written, same⟩ := rest
  refine ⟨.text (Printf.missing d) :: segments, ?_, ?_⟩
  · simp only [write, other, if_false, written, ok_bind, pure_eq_ok]
  · rw [← same]
    rfl

theorem Writes.argument (rest : Writes pieces args text) {d : Directive}
    (other : d.verb ≠ Units.unit '%') {value : Value} {formatted : List Segment}
    (given : format d value = .ok formatted) :
    Writes (.directive d :: pieces) (value :: args) (toUnits formatted ++ text) := by
  obtain ⟨segments, written, same⟩ := rest
  refine ⟨formatted ++ segments, ?_, ?_⟩
  · simp only [write, other, if_false, given, written, ok_bind, pure_eq_ok]
  · rw [to_units_append, same]

theorem printf_eq (format : Units) (args : List Value) :
    printf (.string format :: args) =
      (write (Printf.pieces format) args >>= fun segments => bounded (toUnits segments)) := by
  simp only [← join_eq]
  rfl

theorem Writes.printf {format : Units} (written : Writes (Printf.pieces format) args text) :
    printf (.string format :: args) = bounded text := by
  obtain ⟨segments, found, same⟩ := written
  rw [printf_eq, found, ok_bind, same]

theorem Spelling.takes_iff (d : Spelling) : d.takes = true ↔ d.directive.verb ≠ Units.unit '%' :=
  decide_eq_true_iff

/-- What a directive alone gives for an argument is the argument formatted by it. -/
theorem Spelling.printf_alone {d : Spelling} (takes : d.takes = true) (value : Value) :
    printf [.string d.text, value] =
      (format d.directive value >>= fun segments => bounded (toUnits segments)) := by
  have other : d.directive.verb ≠ Units.unit '%' := d.takes_iff.mp takes
  have whole : Printf.pieces d.text = [.directive d.directive] := by
    simpa [Printf.pieces, split] using pieces_directive d []
  rw [printf_eq, whole]
  simp only [write, other, if_false]
  cases format d.directive value with
  | error fault => rfl
  | ok segments => simp only [ok_bind, pure_eq_ok, List.append_nil]

theorem Spelling.formatted {d : Spelling} (takes : d.takes = true) {value : Value} {out : Units}
    (given : printf [.string d.text, value] = .ok out) :
    ∃ segments, format d.directive value = .ok segments ∧ toUnits segments = out := by
  rw [Spelling.printf_alone takes] at given
  obtain ⟨segments, found, fits⟩ := bind_ok_iff.mp given
  unfold bounded at fits
  split at fits
  · cases fits
  · exact ⟨segments, found, Except.ok.inj fits⟩

/-- Parts that all give a text by themselves give their texts one after the other. -/
theorem parts_write {args : List Value} {position : Nat} {parts : List Part} {texts : List Units}
    (given : outcomes args position parts = texts.map .ok) :
    Writes (parts.flatMap Part.pieces) (args.drop position) texts.flatten := by
  induction parts generalizing position texts with
  | nil =>
      obtain rfl := List.map_eq_nil_iff.mp given.symm
      exact ⟨[], rfl, rfl⟩
  | cons part rest ih =>
      cases part with
      | literal text plain =>
          obtain ⟨first, others, rfl, same, later⟩ := List.map_eq_cons_iff.mp given.symm
          cases same
          exact (ih later.symm).literal text
      | directive d =>
          cases takes : d.takes with
          | false =>
              simp only [outcomes, takes, Bool.false_eq_true, if_false] at given
              obtain ⟨first, others, rfl, same, later⟩ := List.map_eq_cons_iff.mp given.symm
              cases same
              exact (ih later.symm).percent (by simpa [Spelling.takes] using takes)
          | true =>
              have other := d.takes_iff.mp takes
              simp only [outcomes, takes, if_true] at given
              obtain ⟨first, others, rfl, same, later⟩ := List.map_eq_cons_iff.mp given.symm
              have behind := ih later.symm
              by_cases inside : position < args.length
              · rw [List.getElem?_eq_getElem inside] at same
                obtain ⟨formatted, found, rfl⟩ := Spelling.formatted takes same.symm
                rw [List.drop_eq_getElem_cons inside]
                exact behind.argument other found
              · have none := Nat.le_of_not_lt inside
                rw [List.getElem?_eq_none none] at same
                rw [List.drop_eq_nil_of_le (Nat.le_succ_of_le none)] at behind
                rw [List.drop_eq_nil_of_le none]
                cases same
                exact behind.missing other

/-- Arguments behind the last one that is taken make no difference. -/
theorem write_surplus {more : List Value} {pieces : List Piece} {args : List Value}
    (enough : pieces.countP Piece.takes ≤ args.length) :
    write pieces (args ++ more) = write pieces args := by
  induction pieces generalizing args with
  | nil => rfl
  | cons piece rest ih =>
      cases piece with
      | unit u =>
          rw [List.countP_cons_of_neg Bool.false_ne_true] at enough
          simp only [write, ih enough]
      | directive d =>
          by_cases percent : d.verb = Units.unit '%'
          · rw [List.countP_cons_of_neg (by simp [Piece.takes, percent])] at enough
            simp only [write, percent, if_true, ih enough]
          · rw [List.countP_cons_of_pos (by simp [Piece.takes, percent])] at enough
            cases args with
            | nil => exact absurd enough (Nat.not_succ_le_zero _)
            | cons value args =>
                simp only [List.cons_append, write, percent, if_false,
                  ih (Nat.le_of_succ_le_succ enough)]

theorem count_p_pieces (parts : List Part) :
    (parts.flatMap Part.pieces).countP Piece.takes = parts.countP Part.takes := by
  induction parts with
  | nil => rfl
  | cons part rest ih =>
      rw [List.flatMap_cons, List.countP_append, ih, List.countP_cons, Nat.add_comm]
      congr 1
      cases part with
      | literal text plain => simp [Part.pieces, Part.takes, Piece.takes]
      | directive d => exact List.countP_singleton

/-- A format that is put together from literal texts and directives gives, one after the other, the
literal texts as they are, a percent sign for each directive of one, and for the others what each
gives alone for its own argument alone, or a note that the argument is missing. All of it together
is the result, unless it is longer than any text of the language. Arguments that no directive takes
make no difference. -/
theorem formatting_sequential (parts : List Part) (args : List Value) {texts : List Units}
    (given : outcomes args 0 parts = texts.map .ok) :
    printf (.string (formatOf parts) :: args) =
      (if longest < texts.flatten.length then .error .stringLength else .ok texts.flatten) ∧
    ∀ more, parts.countP Part.takes ≤ args.length →
      printf (.string (formatOf parts) :: (args ++ more)) =
        printf (.string (formatOf parts) :: args) := by
  constructor
  · apply Writes.printf
    rw [pieces_format_of]
    exact parts_write given
  · intro more enough
    rw [printf_eq, printf_eq, pieces_format_of, write_surplus]
    rw [count_p_pieces]
    exact enough

/-- The parts of the format `100%%: %s|%-4d|%+05.1f`. -/
def reportParts : List Part :=
  [.literal (units "100") (by decide),
    .directive ⟨[], [], none, Units.unit '%', by decide, by decide, by decide, by decide⟩,
    .literal (units ": ") (by decide),
    .directive ⟨[], [], none, Units.unit 's', by decide, by decide, by decide, by decide⟩,
    .literal (units "|") (by decide),
    .directive ⟨units "-", units "4", none, Units.unit 'd', by decide, by decide, by decide,
      by decide⟩,
    .literal (units "|") (by decide),
    .directive ⟨units "+", units "05", some (units "1"), Units.unit 'f', by decide, by decide,
      by decide, by decide⟩]

/-- The first argument looks like a directive, and the last directive has no argument. -/
def reportArguments : List Value :=
  [.string (units "%d%%"), .number (Double.ofInt (-7))]

def reportTexts : List Units :=
  [units "100", units "%", units ": ", units "%d%%", units "|", units "-7  ", units "|",
    units "%!f(MISSING)"]

theorem report_formatted :
    formatOf reportParts = units "100%%: %s|%-4d|%+05.1f" ∧
    outcomes reportArguments 0 reportParts = reportTexts.map .ok ∧
    printf (.string (formatOf reportParts) :: reportArguments) =
      .ok (units "100%: %d%%|-7  |%!f(MISSING)") := by
  have given : outcomes reportArguments 0 reportParts = reportTexts.map .ok := by
    decide +kernel
  refine ⟨by decide +kernel, given, ?_⟩
  rw [(formatting_sequential reportParts reportArguments given).1]
  decide +kernel

end Writing

end TemplateScript.Printf
