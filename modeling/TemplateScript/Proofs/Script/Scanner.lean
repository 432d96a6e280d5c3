import Mathlib.Data.List.Basic
import TemplateScript.Text.Literal

/-!
A scanner for brackets and literals.

It reads script one character at a time. Outside of literals it keeps the closing brackets that are
still to come, innermost first, and stops at one that does not match. Inside of literals it only
looks for the closing quote, a backslash taking the character after it along. The literals that
were closed are kept too, as they stand between their quotes.

What a text does to the scanner does not depend on the brackets that were open before, nor on the
literals found before. So it is enough to say what each part of a text does to a scanner that
expects the brackets this part closes.
-/
namespace TemplateScript

namespace Scanner

inductive Role
  | quote
  /-- An opening bracket, with the one that closes it. -/
  | opening (closing : Char)
  | closing
  | plain
deriving DecidableEq

def role (c : Char) : Role :=
  if c = '"' then .quote
  else if c = '(' then .opening ')'
  else if c = '[' then .opening ']'
  else if c = '\x7b' then .opening '\x7d'
  else if c = ')' ∨ c = ']' ∨ c = '\x7d' then .closing
  else .plain

inductive Mode
  | code
  | literal (content : List Char) (escaped : Bool)
deriving DecidableEq

structure State where
  opened : List Char
  mode : Mode
  found : List (List Char)
deriving DecidableEq

def start : State := ⟨[], .code, []⟩

/-- Takes a closing bracket off those expected. -/
def close? (c : Char) : List Char → Option (List Char)
  | [] => none
  | expected :: rest => if c = expected then some rest else none

def step (state : State) (c : Char) : Option State :=
  match state with
  | ⟨opened, .code, found⟩ =>
      match role c with
      | .quote => some ⟨opened, .literal [] false, found⟩
      | .opening closing => some ⟨closing :: opened, .code, found⟩
      | .closing => (close? c opened).map fun rest => ⟨rest, .code, found⟩
      | .plain => some ⟨opened, .code, found⟩
  | ⟨opened, .literal content true, found⟩ =>
      some ⟨opened, .literal (content ++ [c]) false, found⟩
  | ⟨opened, .literal content false, found⟩ =>
      if c = '"' then some ⟨opened, .code, found ++ [content]⟩
      else some ⟨opened, .literal (content ++ [c]) (c = '\\'), found⟩

def run (state : State) : List Char → Option State
  | [] => some state
  | c :: rest => (step state c).bind fun next => run next rest

theorem run_append (state : State) (first second : List Char) :
    run state (first ++ second) = (run state first).bind fun next => run next second := by
  induction first generalizing state with
  | nil => rfl
  | cons c rest ih =>
      cases stepped : step state c with
      | none => simp [run, stepped]
      | some next => simp [run, stepped, ih]

/-- The state with more brackets around it and more literals in front. -/
def State.within (base : List Char) (earlier : List (List Char)) (state : State) : State :=
  ⟨state.opened ++ base, state.mode, earlier ++ state.found⟩

theorem close_within {opened rest : List Char} {c : Char} (closed : close? c opened = some rest)
    (base : List Char) : close? c (opened ++ base) = some (rest ++ base) := by
  cases opened with
  | nil => cases closed
  | cons expected others =>
      simp only [close?, Option.ite_none_right_eq_some, Option.some.injEq] at closed
      obtain ⟨rfl, rfl⟩ := closed
      simp [close?]

theorem step_within {state next : State} {c : Char} (stepped : step state c = some next)
    (base : List Char) (earlier : List (List Char)) :
    step (state.within base earlier) c = some (next.within base earlier) := by
  obtain ⟨opened, mode, found⟩ := state
  cases mode with
  | code =>
      simp only [step, State.within] at stepped ⊢
      cases kind : role c with
      -- the only character for which the open brackets count
      | closing =>
          simp only [kind] at stepped
          obtain ⟨rest, closed, rfl⟩ := Option.map_eq_some_iff.mp stepped
          simp [close_within closed base]
      | quote | opening | plain =>
          simp only [kind] at stepped
          cases stepped
          simp
  | literal content escaped =>
      cases escaped with
      | true =>
          cases stepped
          rfl
      | false =>
          simp only [step, State.within] at stepped ⊢
          split at stepped
          · next quote =>
              cases stepped
              simp [quote]
          · next other =>
              cases stepped
              simp [other]

theorem run_within {state last : State} {text : List Char} (ran : run state text = some last)
    (base : List Char) (earlier : List (List Char)) :
    run (state.within base earlier) text = some (last.within base earlier) := by
  induction text generalizing state with
  | nil =>
      cases ran
      rfl
  | cons c rest ih =>
      obtain ⟨next, stepped, further⟩ := Option.bind_eq_some_iff.mp ran
      simp only [run, step_within stepped base earlier, Option.bind_some]
      exact ih further

theorem run_prefix {state last : State} {front text : List Char} (leads : front <+: text)
    (ran : run state text = some last) : ∃ here, run state front = some here := by
  obtain ⟨back, rfl⟩ := leads
  rw [run_append] at ran
  obtain ⟨here, reached, _⟩ := Option.bind_eq_some_iff.mp ran
  exact ⟨here, reached⟩

end Scanner

open Scanner

namespace Literal

/-- What stands between the quotes of a script literal. -/
def escaped (text : String) : List Char :=
  text.toList.flatMap escapeScript

end Literal

/-- Scanning the text takes the brackets expected from one list to another and finds the literals of
these texts. No literal is open before or after. -/
def Reads (before : List Char) (text : String) (after : List Char) (literals : List String) :
    Prop :=
  run ⟨before, .code, []⟩ text.toList = some ⟨after, .code, literals.map Literal.escaped⟩

instance (before : List Char) (text : String) (after : List Char) (literals : List String) :
    Decidable (Reads before text after literals) :=
  inferInstanceAs (Decidable (_ = _))

example : Reads [] "f(\"]\")" [] ["]"] := by decide

example : ¬Reads [] "f(\"]\"]" [] ["]"] := by decide

/-- The text closes what it opens and nothing else. -/
def Nested (text : String) (literals : List String) : Prop :=
  Reads [] text [] literals

theorem Reads.append {before middle after : List Char} {first second : String}
    {literals others : List String} (left : Reads before first middle literals)
    (right : Reads middle second after others) :
    Reads before (first ++ second) after (literals ++ others) := by
  have further := run_within right [] (literals.map Literal.escaped)
  simp only [State.within, List.append_nil] at further
  simp only [Reads, String.toList_append, run_append, List.map_append] at left ⊢
  rw [left]
  exact further

/-- What follows has no literals. -/
theorem Reads.code {before middle after : List Char} {first second : String}
    {literals : List String} (left : Reads before first middle literals)
    (right : Reads middle second after []) : Reads before (first ++ second) after literals := by
  simpa using left.append right

theorem Nested.within {text : String} {literals : List String} (nested : Nested text literals)
    (opened : List Char) : Reads opened text opened literals :=
  run_within nested opened []

theorem Nested.append {first second : String} {literals others : List String}
    (left : Nested first literals) (right : Nested second others) :
    Nested (first ++ second) (literals ++ others) :=
  Reads.append left right

def isInert (text : String) : Bool :=
  text.toList.all fun c => role c = .plain

theorem run_plain (opened : List Char) (found : List (List Char)) {text : List Char}
    (plain : ∀ c ∈ text, role c = .plain) :
    run ⟨opened, .code, found⟩ text = some ⟨opened, .code, found⟩ := by
  induction text with
  | nil => rfl
  | cons c rest ih =>
      simp only [List.forall_mem_cons] at plain
      simp [run, step, plain.1, ih plain.2]

theorem is_inert_iff {text : String} :
    isInert text = true ↔ ∀ c ∈ text.toList, role c = .plain := by
  simp [isInert]

theorem nested_inert {text : String} (inert : isInert text = true) : Nested text [] :=
  run_plain [] [] (is_inert_iff.mp inert)

theorem nested_intercalate {α : Type} (write : α → String) (literals : α → List String)
    {items : List α} (each : ∀ item ∈ items, Nested (write item) (literals item)) :
    Nested (",".intercalate (items.map write)) (items.flatMap literals) := by
  induction items with
  | nil => rfl
  | cons first rest ih =>
      simp only [List.forall_mem_cons] at each
      cases rest with
      | nil => simpa using each.1
      | cons second others =>
          have comma : Reads [] "," [] [] := by decide
          have listed := Nested.append (Reads.code each.1 comma) (ih each.2)
          simpa [String.intercalate_cons_cons] using listed

namespace Literal

theorem hex_digit_inside (digit : Nat) : hexDigit digit ≠ '"' ∧ hexDigit digit ≠ '\\' := by
  have all : ∀ rest < 16, Nat.digitChar rest ≠ '"' ∧ Nat.digitChar rest ≠ '\\' := by decide
  exact all (digit % 16) (Nat.mod_lt _ (by decide))

section

variable (opened content : List Char) (found : List (List Char))

theorem run_unicode_escape (code : Nat) :
    run ⟨opened, .literal content false, found⟩ (unicodeEscape code) =
      some ⟨opened, .literal (content ++ unicodeEscape code) false, found⟩ := by
  simp [run, step, unicodeEscape, hex_digit_inside]

/-- The escape of one character keeps the literal open. -/
theorem run_escape (c : Char) :
    run ⟨opened, .literal content false, found⟩ (escapeScript c) =
      some ⟨opened, .literal (content ++ escapeScript c) false, found⟩ := by
  have unicode := run_unicode_escape opened content found c.toNat
  unfold escapeScript
  split
  · exact unicode
  · -- a backslash with what it takes along, or a character that is no quote and no backslash
    unfold escapeJson
    repeat' split
    all_goals simp [run, step, *]

theorem run_escapes (text : List Char) :
    run ⟨opened, .literal content false, found⟩ (text.flatMap escapeScript) =
      some ⟨opened, .literal (content ++ text.flatMap escapeScript) false, found⟩ := by
  induction text generalizing content with
  | nil => simp [run]
  | cons c rest ih => simp [run_append, run_escape, ih]

end

/-- A literal is read whole, whatever its text is. -/
theorem script_nested (text : String) : Nested (script text) [text] := by
  have inner := run_escapes [] [] [] text.toList
  simp only [List.nil_append] at inner
  simp only [Nested, Reads, script, enclose, String.toList_ofList, run, step, role, if_true,
    Option.bind_some, run_append, inner]
  rfl

end Literal

end TemplateScript
