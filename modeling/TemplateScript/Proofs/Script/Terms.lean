import TemplateScript.Proofs.Number.Printing
import TemplateScript.Proofs.Script.Words
import TemplateScript.Proofs.Text.Literal
import TemplateScript.Script.Emit

/-!
Expressions of script read back.

A reader takes the text of an expression apart: a literal or a word first, which may stand in
parentheses, and then one member after another, each perhaps with arguments. What it gives is a
term, in which words are kept as they are spelled. The text of an expression is read as the term of
the expression, so two expressions with the same text have the same term.

Words end where a character follows that no word has, and constants are followed by the end of an
argument. That is why a constant may not be the subject of a member.
-/
namespace TemplateScript

namespace Script

/-- An expression of script without its punctuation. -/
inductive Term
  | number (digits : List Char)
  | word (spelling : List Char)
  | literal (text : String)
  | member (subject : Term) (name : String)
  | call (subject : Term) (name : String) (args : List Term)

namespace Term

def isNumeral (c : Char) : Bool :=
  c.isDigit || c = '.' || c = '-'

/-- A number, or a name. Numbers begin with a digit or a sign. -/
def readWord (text : List Char) : Term × List Char :=
  if text.head?.any fun first => first.isDigit || first = '-' then
    (.number (text.takeWhile isNumeral), text.dropWhile isNumeral)
  else (.word (text.takeWhile Identifier.isPart), text.dropWhile Identifier.isPart)

/-- The text of a literal whose opening quote has been read. -/
def readLiteral (text : List Char) : Option (String × List Char) :=
  (Json.readString text).bind fun (content, rest) =>
    (Units.toString? content).map fun characters => (characters, rest)

def readHead : List Char → Option (Term × List Char)
  | '"' :: rest => (readLiteral rest).map fun (text, rest) => (.literal text, rest)
  | '(' :: rest =>
      match readWord rest with
      | (inner, ')' :: rest) => some (inner, rest)
      | _ => none
  | text => some (readWord text)

def readAccess : List Char → Option (String × List Char)
  | '.' :: rest =>
      some (String.ofList (rest.takeWhile Identifier.isPart), rest.dropWhile Identifier.isPart)
  | '[' :: '"' :: rest =>
      match readLiteral rest with
      | some (name, ']' :: rest) => some (name, rest)
      | _ => none
  | _ => none

mutual

/-- An expression and the text behind it. The first argument bounds the steps. -/
def read : Nat → List Char → Option (Term × List Char)
  | 0, _ => none
  | fuel + 1, text => (readHead text).bind fun (head, rest) => readMembers fuel head rest

def readMembers : Nat → Term → List Char → Option (Term × List Char)
  | 0, _, _ => none
  | fuel + 1, subject, text =>
      match readAccess text with
      | none => some (subject, text)
      | some (name, '(' :: rest) =>
          (readArgs fuel rest).bind fun (args, rest) =>
            readMembers fuel (.call subject name args) rest
      | some (name, rest) => readMembers fuel (.member subject name) rest

def readArgs : Nat → List Char → Option (List Term × List Char)
  | 0, _ => none
  | _ + 1, ')' :: rest => some ([], rest)
  | fuel + 1, text =>
      (read fuel text).bind fun (first, rest) =>
        match rest with
        | ',' :: rest => (readArgs fuel rest).map fun (more, rest) => (first :: more, rest)
        | ')' :: rest => some ([first], rest)
        | _ => none

end

end Term

end Script

open Script

namespace Expr

mutual

def term : Expr → Term
  | .constant (.number value) _ => .number (value.text .plain).toList
  | .constant (.bool value) _ => .word (Script.constant (.bool value)).toList
  | .constant (.string text) _ => .literal text
  | .field subject name _ => .member subject.term name
  | .method subject name args _ => .call subject.term name (terms args)
  | .slot name _ => .word name.toList
  | .context _ => .word "ctx".toList
  | .globals _ => .word "__g".toList

def terms : List Expr → List Term
  | [] => []
  | first :: rest => first.term :: terms rest

end

def isConstant : Expr → Bool
  | .constant _ _ => true
  | _ => false

/-- No member is read off a constant, numbers are finite, and variables are words. -/
inductive Readable : Expr → Prop
  | number {value : Double} {ty : Ty} :
      value.isFinite = true → Readable (.constant (.number value) ty)
  | bool {value : Bool} {ty : Ty} : Readable (.constant (.bool value) ty)
  | string {text : String} {ty : Ty} : Readable (.constant (.string text) ty)
  | field {subject : Expr} {name : String} {ty : Ty} :
      subject.isConstant = false → Readable subject → Readable (.field subject name ty)
  | method {subject : Expr} {name : String} {args : List Expr} {ty : Ty} :
      subject.isConstant = false → Readable subject → (∀ arg ∈ args, Readable arg) →
      Readable (.method subject name args ty)
  | slot {name : String} {ty : Ty} :
      isWord name = true → startsWithDollar name = true → Readable (.slot name ty)
  | context {ty : Ty} : Readable (.context ty)
  | globals {ty : Ty} : Readable (.globals ty)

end Expr

namespace Script.Term

section Words

def EndsName (text : List Char) : Prop :=
  ∀ c ∈ text.head?, Identifier.isPart c = false

def EndsArgument (text : List Char) : Prop :=
  ∀ c ∈ text.head?, c = ',' ∨ c = ')'

/-- What is read as a subject may go on with a member. -/
def EndsSubject (text : List Char) : Prop :=
  ∀ c ∈ text.head?, Identifier.isPart c = false ∧ c ≠ '('

theorem EndsSubject.ends_name {text : List Char} (ends : EndsSubject text) : EndsName text :=
  fun c first => (ends c first).1

theorem EndsArgument.ends_subject {text : List Char} (ends : EndsArgument text) :
    EndsSubject text := by
  intro c first
  rcases ends c first with rfl | rfl <;> decide

theorem read_word_name {name rest : List Char} (word : ∀ c ∈ name, Identifier.isPart c = true)
    {first : Char} (start : name.head? = some first)
    (letter : (first.isDigit || first = '-') = false) (ends : EndsName rest) :
    readWord (name ++ rest) = (.word name, rest) := by
  have numeral : ((name ++ rest).head?.any fun first => first.isDigit || first = '-') = false := by
    rw [List.head?_append, start]
    exact letter
  obtain ⟨taken, left⟩ := run_exact word ends
  rw [readWord, numeral, taken, left]
  rfl

theorem read_word_numeral {number rest : List Char} (numeral : ∀ c ∈ number, isNumeral c = true)
    {first : Char} (start : number.head? = some first)
    (begins : (first.isDigit || first = '-') = true) (ends : EndsArgument rest) :
    readWord (number ++ rest) = (.number number, rest) := by
  have known : ((number ++ rest).head?.any fun first => first.isDigit || first = '-') = true := by
    rw [List.head?_append, start]
    exact begins
  have stop : ∀ c ∈ rest.head?, isNumeral c = false := by
    intro c first
    rcases ends c first with rfl | rfl <;> decide
  obtain ⟨taken, left⟩ := run_exact numeral stop
  rw [readWord, known, taken, left]
  rfl

theorem read_head_word {spelling rest : List Char} {word : Term} {first : Char}
    (start : spelling.head? = some first) (apart : first ≠ '"' ∧ first ≠ '(')
    (read : readWord (spelling ++ rest) = (word, rest)) :
    readHead (spelling ++ rest) = some (word, rest) := by
  obtain ⟨others, rfl⟩ := List.head?_eq_some_iff.mp start
  rw [List.cons_append] at read ⊢
  rw [readHead, read]
  · exact fun _ same => apart.1 (List.cons.inj same).1
  · exact fun _ same => apart.2 (List.cons.inj same).1

theorem read_head_name {name rest : List Char} (word : ∀ c ∈ name, Identifier.isPart c = true)
    {first : Char} (start : name.head? = some first)
    (letter : (first.isDigit || first = '-') = false) (ends : EndsName rest) :
    readHead (name ++ rest) = some (.word name, rest) := by
  have part := word first (List.mem_of_head? start)
  refine read_head_word start ⟨?_, ?_⟩ (read_word_name word start letter ends)
  · rintro rfl
    exact absurd part (by decide)
  · rintro rfl
    exact absurd part (by decide)

theorem read_head_parenthesized {spelling rest : List Char} {word : Term}
    (read : readWord (spelling ++ ')' :: rest) = (word, ')' :: rest)) :
    readHead ('(' :: (spelling ++ ')' :: rest)) = some (word, rest) := by
  rw [readHead, read]
  rfl

theorem read_literal_escaped (text : String) (rest : List Char) :
    readLiteral (Literal.escaped text ++ '"' :: rest) = some (text, rest) := by
  have read := Literal.read_enclosed Literal.escape_script_faithful text.toList rest
  have back := Units.to_string_units text
  rw [units] at back
  rw [readLiteral, Literal.escaped, read, Option.bind_some]
  dsimp only
  rw [back]
  rfl

theorem script_literal_append (text : String) (rest : List Char) :
    (Literal.script text).toList ++ rest = '"' :: (Literal.escaped text ++ '"' :: rest) := by
  simp [Literal.script, Literal.enclose, Literal.escaped]

theorem read_head_literal (text : String) (rest : List Char) :
    readHead ((Literal.script text).toList ++ rest) = some (.literal text, rest) := by
  rw [script_literal_append, readHead, read_literal_escaped]
  rfl

theorem read_access_member (name : String) {rest : List Char} (ends : EndsName rest) :
    readAccess ((memberAccess name).toList ++ rest) = some (name, rest) := by
  unfold memberAccess
  split
  · next plain =>
      have word := plain_identifier_word plain
      simp only [isWord, List.all_eq_true] at word
      obtain ⟨taken, left⟩ := run_exact word ends
      have text : ("." ++ name).toList ++ rest = '.' :: (name.toList ++ rest) := by simp
      rw [text, readAccess, taken, left, String.ofList_toList]
  · have text : ("[" ++ Literal.script name ++ "]").toList ++ rest =
        '[' :: '"' :: (Literal.escaped name ++ '"' :: ']' :: rest) := by
      have literal := script_literal_append name (']' :: rest)
      simp [← literal]
    rw [text, readAccess, read_literal_escaped]
    rfl

end Words

section Numbers

/-- Positional notation begins with a digit. -/
theorem positional_start {digits : List Char} (filled : digits ≠ [])
    (all : ∀ c ∈ digits, c.isDigit = true) (point : Int) :
    ∃ first ∈ (NumberStyle.positionalText digits point).head?, first.isDigit = true := by
  obtain ⟨first, others, rfl⟩ := List.exists_cons_of_ne_nil filled
  have digit := all first (by simp)
  unfold NumberStyle.positionalText
  split
  · exact ⟨'0', rfl, by decide⟩
  · next large =>
      split
      · exact ⟨first, rfl, digit⟩
      · obtain ⟨count, positive⟩ : ∃ count, point.toNat = count + 1 :=
          Nat.exists_eq_succ_of_ne_zero (by omega)
        rw [positive]
        exact ⟨first, rfl, digit⟩

theorem finite_numeral {value : Double} (finite : value.isFinite = true) :
    (∀ c ∈ (value.text .plain).toList, isNumeral c = true) ∧
      ∃ first ∈ (value.text .plain).toList.head?, (first.isDigit || first = '-') = true := by
  obtain ⟨negative, significand, exponent, read⟩ := Double.read_of_is_finite finite
  by_cases zero : significand = 0
  · have text : value.text .plain = if negative then "-0" else "0" := by
      simp [Double.text, read, zero, NumberStyle.plain]
    rw [text]
    cases negative with
    | false => exact ⟨List.all_eq_true.mp (by decide), '0', by decide, by decide⟩
    | true => exact ⟨List.all_eq_true.mp (by decide), '-', by decide, by decide⟩
  · have written := Double.text_positional read zero
    generalize Shortest.decimal .up significand exponent = d at written
    have digits := Numeral.to_digits_digits d.digits
    have filled : Nat.toDigits 10 d.digits ≠ [] := by simp
    generalize ((Nat.toDigits 10 d.digits).length + d.exponent : Int) = point at written
    rw [written]
    have numeral (c : Char) (digit : c.isDigit = true) : isNumeral c = true := by
      simp [isNumeral, digit]
    have all := positional_all (by decide : isNumeral '0' = true) (by decide)
      (fun c member => numeral c (digits c member)) point
    obtain ⟨first, start, digit⟩ := positional_start filled digits point
    cases negative with
    | false => exact ⟨all, first, start, by simp [digit]⟩
    | true => exact ⟨List.forall_mem_cons.mpr ⟨by decide, all⟩, '-', rfl, by decide⟩

end Numbers

section Fuel

variable {α β : Type}

/-- What a reading gives once it has fuel enough. -/
def Settles (reading : Nat → Option α) (result : α) : Prop :=
  ∃ least, ∀ fuel, least ≤ fuel → reading fuel = some result

theorem Settles.unique {reading : Nat → Option α} {left right : α} (first : Settles reading left)
    (second : Settles reading right) : left = right := by
  obtain ⟨enough, first⟩ := first
  obtain ⟨also, second⟩ := second
  have both := first _ (Nat.le_max_left enough also)
  rw [second _ (Nat.le_max_right enough also)] at both
  exact (Option.some.inj both).symm

/-- One step of a reading that uses what another one gives. -/
theorem Settles.after {first : Nat → Option β} {middle : β} {reading next : Nat → Option α}
    {result : α} (settles : Settles first middle) (further : Settles next result)
    (unfolded : ∀ fuel, first fuel = some middle → reading (fuel + 1) = next fuel) :
    Settles reading result := by
  obtain ⟨enough, settles⟩ := settles
  obtain ⟨also, further⟩ := further
  refine ⟨max enough also + 1, fun fuel least => ?_⟩
  obtain ⟨less, rfl⟩ : ∃ less, fuel = less + 1 := ⟨fuel - 1, by omega⟩
  rw [unfolded less (settles less (by omega))]
  exact further less (by omega)

theorem Settles.step {reading next : Nat → Option α} {result : α} (settles : Settles next result)
    (unfolded : ∀ fuel, reading (fuel + 1) = next fuel) : Settles reading result :=
  settles.after settles fun fuel _ => unfolded fuel

theorem Settles.pure (result : α) : Settles (fun _ => some result) result :=
  ⟨0, fun _ _ => rfl⟩

theorem Settles.map {reading : Nat → Option α} {result : α} (settles : Settles reading result)
    (f : α → β) : Settles (fun fuel => (reading fuel).map f) (f result) := by
  obtain ⟨least, settles⟩ := settles
  exact ⟨least, fun fuel enough => by simp [settles fuel enough]⟩

end Fuel

section Reading

theorem member_access_ends (name : String) (rest : List Char) :
    EndsSubject ((memberAccess name).toList ++ rest) := by
  unfold memberAccess
  split <;> simp [EndsSubject] <;> decide

theorem reads_head {text rest : List Char} {head : Term} {result : Term × List Char}
    (opened : readHead text = some (head, rest))
    (members : Settles (readMembers · head rest) result) : Settles (read · text) result :=
  members.step fun fuel => by rw [read, opened, Option.bind_some]

theorem reads_member {subject : Term} {name : String} {tail : List Char}
    {result : Term × List Char} (ends : EndsSubject tail)
    (members : Settles (readMembers · (.member subject name) tail) result) :
    Settles (readMembers · subject ((memberAccess name).toList ++ tail)) result := by
  have access := read_access_member name ends.ends_name
  refine members.step fun fuel => ?_
  rw [readMembers, access]
  cases tail with
  | nil => rfl
  | cons first rest =>
      have other : first ≠ '(' := (ends first rfl).2
      simp [other]

theorem reads_call {subject : Term} {name : String} {args : List Term} {inner tail : List Char}
    {result : Term × List Char} (listed : Settles (readArgs · inner) (args, tail))
    (members : Settles (readMembers · (.call subject name args) tail) result) :
    Settles (readMembers · subject ((memberAccess name).toList ++ '(' :: inner)) result := by
  have ends : EndsName ('(' :: inner) := by simp [EndsName]; decide
  have access := read_access_member name ends
  refine listed.after members fun fuel found => ?_
  rw [readMembers, access]
  simp [found]

/-- Members end where an argument does. -/
theorem reads_end (subject : Term) {tail : List Char} (ends : EndsArgument tail) :
    Settles (readMembers · subject tail) (subject, tail) := by
  have access : readAccess tail = none := by
    cases tail with
    | nil => rfl
    | cons first rest => rcases ends first rfl with rfl | rfl <;> rfl
  refine (Settles.pure (subject, tail)).step fun fuel => ?_
  rw [readMembers, access]

theorem settles_last_argument {text tail : List Char} {arg : Term}
    (opened : ∀ rest, text ≠ ')' :: rest)
    (read : Settles (Term.read · text) (arg, ')' :: tail)) :
    Settles (readArgs · text) ([arg], tail) := by
  refine read.after (Settles.pure ([arg], tail)) fun fuel found => ?_
  rw [readArgs, found]
  · rfl
  · exact opened

theorem settles_more_arguments {text inner tail : List Char} {arg : Term} {args : List Term}
    (opened : ∀ rest, text ≠ ')' :: rest)
    (read : Settles (Term.read · text) (arg, ',' :: inner))
    (others : Settles (readArgs · inner) (args, tail)) :
    Settles (readArgs · text) (arg :: args, tail) := by
  refine read.after (others.map fun (more, rest) => (arg :: more, rest)) fun fuel found => ?_
  rw [readArgs, found]
  · rfl
  · exact opened

end Reading

end Script.Term

namespace Expr.Readable

open Script.Term

theorem start {e : Expr} (readable : e.Readable) :
    ∃ first ∈ (Script.expr e).toList.head?, first ≠ ')' := by
  induction readable with
  | @number value ty finite =>
      obtain ⟨_, first, start, begins⟩ := finite_numeral finite
      simp only [Script.expr, Script.constant, Script.number]
      split
      · exact ⟨'(', by simp, by decide⟩
      · refine ⟨first, start, ?_⟩
        rintro rfl
        exact absurd begins (by decide)
  | @bool value ty =>
      cases value with
      | false => exact ⟨'f', by simp [Script.expr, Script.constant], by decide⟩
      | true => exact ⟨'t', by simp [Script.expr, Script.constant], by decide⟩
  | @string text ty =>
      exact ⟨'"', by simp [Script.expr, Script.constant, Literal.script, Literal.enclose],
        by decide⟩
  | field _ _ ih | method _ _ _ ih =>
      obtain ⟨first, begins, other⟩ := ih
      refine ⟨first, ?_, other⟩
      simp [Script.expr, List.head?_append, Option.mem_def.mp begins]
  | slot _ dollar => exact ⟨'$', of_decide_eq_true dollar, by decide⟩
  | context => exact ⟨'c', by simp [Script.expr], by decide⟩
  | globals => exact ⟨'_', by simp [Script.expr], by decide⟩

theorem reads_args {args : List Expr}
    (each : ∀ arg ∈ args, arg.Readable ∧ ∀ {tail : List Char}, EndsArgument tail →
      Settles (Script.Term.read · ((Script.expr arg).toList ++ tail)) (arg.term, tail))
    (tail : List Char) :
    Settles (readArgs · ((",".intercalate (Script.exprs args)).toList ++ ')' :: tail))
      (Expr.terms args, tail) := by
  induction args with
  | nil => exact (Settles.pure ([], tail)).step fun _ => by simp [Script.exprs, readArgs]
  | cons first rest ih =>
      obtain ⟨⟨readable, reads⟩, others⟩ := List.forall_mem_cons.mp each
      obtain ⟨c, begins, other⟩ := readable.start
      have opened (more rest : List Char) : (Script.expr first).toList ++ more ≠ ')' :: rest := by
        intro same
        have head := congrArg List.head? same
        rw [List.head?_append, begins] at head
        exact other (Option.some.inj head)
      cases rest with
      | nil =>
          have ends : EndsArgument (')' :: tail) := by simp [EndsArgument]
          rw [Script.exprs, Script.exprs, String.intercalate_singleton]
          exact settles_last_argument (opened _) (reads ends)
      | cons next rest =>
          have text : ((",".intercalate (Script.exprs (first :: next :: rest))).toList ++
              ')' :: tail) = (Script.expr first).toList ++ ',' ::
                ((",".intercalate (Script.exprs (next :: rest))).toList ++ ')' :: tail) := by
            simp [Script.exprs, String.intercalate_cons_cons]
          rw [text]
          exact settles_more_arguments (opened _) (reads (by simp [EndsArgument])) (ih others)

theorem read_head_number {value : Double} (finite : value.isFinite = true) {tail : List Char}
    (ends : EndsArgument tail) :
    readHead ((Script.number value).toList ++ tail) =
      some (.number (value.text .plain).toList, tail) := by
  obtain ⟨numeral, first, start, begins⟩ := finite_numeral finite
  unfold Script.number
  split
  · have closed : EndsArgument (')' :: tail) := by simp [EndsArgument]
    have inside := read_head_parenthesized (read_word_numeral numeral start begins closed)
    simpa using inside
  · refine read_head_word start ⟨?_, ?_⟩ (read_word_numeral numeral start begins ends)
    · rintro rfl
      exact absurd begins (by decide)
    · rintro rfl
      exact absurd begins (by decide)

theorem reads_name {name : String} (word : isWord name = true) {first : Char}
    (start : name.toList.head? = some first) (letter : (first.isDigit || first = '-') = false)
    {tail : List Char} {result : Term × List Char} (ends : EndsSubject tail)
    (members : Settles (readMembers · (.word name.toList) tail) result) :
    Settles (Script.Term.read · (name.toList ++ tail)) result :=
  reads_head (read_head_name (List.all_eq_true.mp word) start letter ends.ends_name) members

/-- An expression is read, and what is read goes on with the members behind it. -/
theorem reads {e : Expr} (readable : e.Readable) {tail : List Char} {result : Term × List Char}
    (ends : EndsSubject tail) (last : e.isConstant = true → EndsArgument tail)
    (members : Settles (readMembers · e.term tail) result) :
    Settles (Script.Term.read · ((Script.expr e).toList ++ tail)) result := by
  induction readable generalizing tail result with
  | number finite => exact reads_head (read_head_number finite (last rfl)) members
  | @bool value ty =>
      cases value with
      | false =>
          have word : isWord "false" = true := by decide
          exact reads_name word rfl (by decide) ends members
      | true =>
          have word : isWord "true" = true := by decide
          exact reads_name word rfl (by decide) ends members
  | @string text ty => exact reads_head (read_head_literal text tail) members
  | @field subject name ty named _ ih =>
      simp only [Script.expr, String.toList_append, List.append_assoc]
      have access := member_access_ends name tail
      exact ih access (by simp [named]) (reads_member ends members)
  | @method subject name args ty named _ argsReadable ih argsIh =>
      have each : ∀ arg ∈ args, arg.Readable ∧ ∀ {tail : List Char}, EndsArgument tail →
          Settles (Script.Term.read · ((Script.expr arg).toList ++ tail)) (arg.term, tail) :=
        fun arg member => ⟨argsReadable arg member, fun ends =>
          argsIh arg member ends.ends_subject (fun _ => ends) (reads_end arg.term ends)⟩
      have called := reads_call (reads_args each tail) members
      have access := member_access_ends name
        ('(' :: ((",".intercalate (Script.exprs args)).toList ++ ')' :: tail))
      have read := ih access (by simp [named]) called
      simpa [Script.expr] using read
  | @slot name ty word dollar =>
      exact reads_name word (of_decide_eq_true dollar) (by decide) ends members
  | context =>
      have word : isWord "ctx" = true := by decide
      exact reads_name word rfl (by decide) ends members
  | globals =>
      have word : isWord "__g" = true := by decide
      exact reads_name word rfl (by decide) ends members

/-- Expressions with the same text are read as the same term. -/
theorem term_unique {left right : Expr} (leftReadable : left.Readable)
    (rightReadable : right.Readable) (same : Script.expr left = Script.expr right) :
    left.term = right.term := by
  have ends : EndsArgument [] := by simp [EndsArgument]
  have first := leftReadable.reads ends.ends_subject (fun _ => ends) (reads_end left.term ends)
  have second := rightReadable.reads ends.ends_subject (fun _ => ends) (reads_end right.term ends)
  rw [same] at first
  exact (Prod.mk.inj (first.unique second)).1

end Expr.Readable

end TemplateScript
