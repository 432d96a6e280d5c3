import TemplateScript.Json.Reader
import TemplateScript.Proofs.Script.Scanner
import TemplateScript.Proofs.Text.Units

/-!
Literals read back.

Both escapings are read back by the reader of JSON texts, one character at a time and whatever
follows. The script literal is also shown to be the JSON literal in which the special characters
have been replaced one after the other: none of the replacements brings in a character that a later
one looks for, and none meets an escape that an earlier one has left.
-/
namespace TemplateScript

theorem Json.parse_of_read {text : String} {value : Json}
    (read : readValue (2 * text.toList.length + 2) text.toList = some (value, [])) :
    parse? text = some value := by
  unfold parse?
  dsimp only
  rw [read]
  rfl

namespace Literal

open Json

/-- The escape of each character reads as its units, whatever follows. -/
def Faithful (escape : Char → List Char) : Prop :=
  ∀ (c : Char) (rest : List Char),
    readString (escape c ++ rest) =
      (readString rest).map fun (text, rest) => (Units.ofChar c ++ text, rest)

theorem digit_hex_digit (digit : Nat) : Digits.digit? 16 (hexDigit digit) = some (digit % 16) := by
  have all : ∀ rest < 16, Digits.digit? 16 (Nat.digitChar rest) = some rest := by decide
  exact all (digit % 16) (Nat.mod_lt _ (by decide))

theorem value_hex_digits {code : Nat} (small : code < 0x10000) :
    Digits.value? 16
        [hexDigit (code / 4096), hexDigit (code / 256), hexDigit (code / 16), hexDigit code] =
      some code := by
  simp only [Digits.value?, List.isEmpty_cons, Digits.continue?, digit_hex_digit, Option.bind_some,
    Bool.false_eq_true, if_false, Option.some.injEq]
  omega

theorem read_unicode_escape {c : Char} (small : c.toNat < 0x10000) (rest : List Char) :
    readString (unicodeEscape c.toNat ++ rest) =
      (readString rest).map fun (text, rest) => (Units.ofChar c ++ text, rest) := by
  simp only [unicodeEscape, List.cons_append, List.nil_append, readString, value_hex_digits small,
    Units.ofChar, small, if_true, Units.unit]

/-- May stand inside a script element and on one line of a script. -/
def Harmless (c : Char) : Prop :=
  c ∉ scriptSpecial ∧ 0x20 ≤ c.toNat

instance (c : Char) : Decidable (Harmless c) :=
  inferInstanceAs (Decidable (_ ∧ _))

/-- JSON has a short escape for a character, or writes a control by its code, or leaves the
character as it is. -/
theorem escape_json_cases (c : Char) :
    (∃ mark, escapeJson c = ['\\', mark] ∧ mark ≠ 'u' ∧ Harmless mark ∧
      shortEscape? mark = some c ∧ c.toNat < 0x10000) ∨
    (escapeJson c = unicodeEscape c.toNat ∧ c.toNat < 0x20) ∨
    (escapeJson c = [c] ∧ c ≠ '"' ∧ c ≠ '\\' ∧ 0x20 ≤ c.toNat) := by
  have short (mark source : Char) (same : c = source)
      (escape : escapeJson source = ['\\', mark] ∧ mark ≠ 'u' ∧ Harmless mark ∧
        shortEscape? mark = some source ∧ source.toNat < 0x10000) :
      ∃ mark, escapeJson c = ['\\', mark] ∧ mark ≠ 'u' ∧ Harmless mark ∧
        shortEscape? mark = some c ∧ c.toNat < 0x10000 := by
    subst same
    exact ⟨mark, escape⟩
  by_cases quote : c = '"'
  · exact .inl (short '"' '"' quote (by decide))
  by_cases backslash : c = '\\'
  · exact .inl (short '\\' '\\' backslash (by decide))
  by_cases backspace : c = '\x08'
  · exact .inl (short 'b' '\x08' backspace (by decide))
  by_cases feed : c = '\x0c'
  · exact .inl (short 'f' '\x0c' feed (by decide))
  by_cases newline : c = '\n'
  · exact .inl (short 'n' '\n' newline (by decide))
  by_cases carriage : c = '\r'
  · exact .inl (short 'r' '\r' carriage (by decide))
  by_cases tab : c = '\t'
  · exact .inl (short 't' '\t' tab (by decide))
  have others : escapeJson c = if c.toNat < 0x20 then unicodeEscape c.toNat else [c] := by
    simp only [escapeJson, quote, backslash, backspace, feed, newline, carriage, tab, if_false]
  by_cases control : c.toNat < 0x20
  · exact .inr (.inl ⟨by rw [others, if_pos control], control⟩)
  · exact .inr (.inr ⟨by rw [others, if_neg control], quote, backslash, Nat.not_lt.mp control⟩)

theorem read_short_escape {mark c : Char} (other : mark ≠ 'u') (escape : shortEscape? mark = some c)
    (small : c.toNat < 0x10000) (rest : List Char) :
    readString ('\\' :: mark :: rest) =
      (readString rest).map fun (text, rest) => (Units.ofChar c ++ text, rest) := by
  have one : Units.ofChar c = [Units.unit c] := by simp [Units.ofChar, small]
  rw [readString, escape, one]
  · rfl
  · exact fun _ _ _ _ _ same _ => other same

theorem read_plain {c : Char} (quote : c ≠ '"') (backslash : c ≠ '\\') (visible : 0x20 ≤ c.toNat)
    (rest : List Char) :
    readString (c :: rest) =
      (readString rest).map fun (text, rest) => (Units.ofChar c ++ text, rest) := by
  have clear : ¬((c.toNat < 0x20 || c = '\\') = true) := by
    simpa [backslash] using visible
  rw [readString, if_neg clear]
  · exact quote
  · exact fun _ _ _ _ _ same => absurd same backslash
  · exact fun _ _ same => absurd same backslash

theorem escape_json_faithful : Faithful escapeJson := by
  intro c rest
  obtain ⟨mark, written, other, _, escape, small⟩ | ⟨written, control⟩ |
    ⟨written, quote, backslash, visible⟩ := escape_json_cases c
  · rw [written]
    exact read_short_escape other escape small rest
  · rw [written]
    exact read_unicode_escape (by omega) rest
  · rw [written]
    exact read_plain quote backslash visible rest

theorem special_small {c : Char} (special : c ∈ scriptSpecial) :
    0x20 < c.toNat ∧ c.toNat < 0x10000 := by
  simp only [scriptSpecial, List.mem_cons, List.not_mem_nil, or_false] at special
  rcases special with rfl | rfl | rfl | rfl | rfl <;> decide

theorem escape_script_faithful : Faithful escapeScript := by
  intro c rest
  unfold escapeScript
  split
  · next special => exact read_unicode_escape (special_small special).2 rest
  · exact escape_json_faithful c rest

/-- A literal is read up to its last character, and what follows is left. -/
theorem read_enclosed {escape : Char → List Char} (faithful : Faithful escape)
    (text rest : List Char) :
    readString (text.flatMap escape ++ '"' :: rest) = some (Units.ofChars text, rest) := by
  induction text with
  | nil => rfl
  | cons c others ih =>
      simp only [List.flatMap_cons, List.append_assoc, faithful c, ih, Option.map_some]
      rfl

/-- The inside of a literal: characters that are neither quotes nor backslashes, and backslashes
with the character that each takes along. -/
inductive Inside : List Char → Prop
  | nil : Inside []
  | plain {c : Char} {rest : List Char} : c ≠ '"' → c ≠ '\\' → Inside rest → Inside (c :: rest)
  | escape (c : Char) {rest : List Char} : Inside rest → Inside ('\\' :: c :: rest)

theorem Inside.append {first second : List Char} (left : Inside first) (right : Inside second) :
    Inside (first ++ second) := by
  induction left with
  | nil => exact right
  | plain quote backslash _ ih => exact .plain quote backslash ih
  | escape c _ ih => exact .escape c ih

theorem hex_digit_harmless (digit : Nat) : Harmless (hexDigit digit) := by
  have all : ∀ rest < 16, Harmless (Nat.digitChar rest) := by decide
  exact all (digit % 16) (Nat.mod_lt _ (by decide))

theorem unicode_escape_inside (code : Nat) : Inside (unicodeEscape code) := by
  refine .escape 'u' ?_
  have plain (digit : Nat) {rest : List Char} (inside : Inside rest) :
      Inside (hexDigit digit :: rest) :=
    .plain (hex_digit_inside digit).1 (hex_digit_inside digit).2 inside
  exact plain _ (plain _ (plain _ (plain _ .nil)))

theorem escape_json_inside (c : Char) : Inside (escapeJson c) := by
  obtain ⟨mark, written, _⟩ | ⟨written, _⟩ | ⟨written, quote, backslash, _⟩ := escape_json_cases c
  · rw [written]
    exact .escape mark .nil
  · rw [written]
    exact unicode_escape_inside _
  · rw [written]
    exact .plain quote backslash .nil

theorem escape_script_inside (c : Char) : Inside (escapeScript c) := by
  unfold escapeScript
  split
  · exact unicode_escape_inside _
  · exact escape_json_inside c

theorem escapes_inside (text : List Char) : Inside (text.flatMap escapeScript) := by
  induction text with
  | nil => exact .nil
  | cons c rest ih =>
      rw [List.flatMap_cons]
      exact (escape_script_inside c).append ih

theorem unicode_escape_harmless (code : Nat) : ∀ d ∈ unicodeEscape code, Harmless d := by
  have backslash : Harmless '\\' := by decide
  have mark : Harmless 'u' := by decide
  simp [unicodeEscape, hex_digit_harmless, backslash, mark]

theorem escape_json_harmless {c : Char} (plain : c ∉ scriptSpecial) :
    ∀ d ∈ escapeJson c, Harmless d := by
  have backslash : Harmless '\\' := by decide
  obtain ⟨mark, written, _, harmless, _⟩ | ⟨written, _⟩ | ⟨written, _, _, visible⟩ :=
    escape_json_cases c
  · simp [written, backslash, harmless]
  · rw [written]
    exact unicode_escape_harmless _
  · have own : Harmless c := ⟨plain, visible⟩
    simp [written, own]

theorem escape_script_harmless (c : Char) : ∀ d ∈ escapeScript c, Harmless d := by
  unfold escapeScript
  split
  · exact unicode_escape_harmless _
  · next plain => exact escape_json_harmless plain

/-- Puts the escape of a character in the place of each of its occurrences. -/
def replaceOne (text : List Char) (special : Char) : List Char :=
  text.flatMap fun c => if c = special then unicodeEscape special.toNat else [c]

/-- Replaces the special characters, one after the other. -/
def replaceSpecial (text : List Char) : List Char :=
  scriptSpecial.foldl replaceOne text

theorem replace_special_append (first second : List Char) :
    replaceSpecial (first ++ second) = replaceSpecial first ++ replaceSpecial second := by
  simp [replaceSpecial, scriptSpecial, replaceOne]

theorem replace_one_absent {text : List Char} {special : Char} (absent : special ∉ text) :
    replaceOne text special = text := by
  induction text with
  | nil => rfl
  | cons c rest ih =>
      simp only [List.mem_cons, not_or] at absent
      have others : replaceOne rest special = rest := ih absent.2
      simp only [replaceOne] at others ⊢
      rw [List.flatMap_cons, if_neg (Ne.symm absent.1), others]
      rfl

theorem replace_special_harmless {text : List Char} (harmless : ∀ c ∈ text, Harmless c) :
    replaceSpecial text = text := by
  have absent : ∀ special ∈ scriptSpecial, special ∉ text :=
    fun special member here => (harmless special here).1 member
  simp only [scriptSpecial, List.forall_mem_cons] at absent
  simp [replaceSpecial, scriptSpecial, replace_one_absent, absent]

theorem replace_special_escape (c : Char) : replaceSpecial (escapeJson c) = escapeScript c := by
  by_cases special : c ∈ scriptSpecial
  · simp only [scriptSpecial, List.mem_cons, List.not_mem_nil, or_false] at special
    rcases special with rfl | rfl | rfl | rfl | rfl <;> decide
  · rw [replace_special_harmless (escape_json_harmless special), escapeScript, if_neg special]

theorem replace_special_escapes (text : List Char) :
    replaceSpecial (text.flatMap escapeJson) = text.flatMap escapeScript := by
  induction text with
  | nil => rfl
  | cons c rest ih =>
      rw [List.flatMap_cons, replace_special_append, replace_special_escape, ih, List.flatMap_cons]

theorem replace_special_json (text : String) :
    replaceSpecial (json text).toList = (script text).toList := by
  have harmless : Harmless '"' := by decide
  have quote : replaceSpecial ['"'] = ['"'] := replace_special_harmless (by simpa using harmless)
  have parts (escapes : List Char) :
      '"' :: (escapes ++ ['"']) = ['"'] ++ (escapes ++ ['"']) := rfl
  simp only [json, script, enclose, String.toList_ofList, parts, replace_special_append, quote,
    replace_special_escapes]

theorem of_text_units (text : String) : ofText (Units.ofChars text.toList) = .string text := by
  have back := Units.to_string_units text
  simp only [units] at back
  rw [ofText, back]

theorem read_value_enclosed {escape : Char → List Char} (faithful : Faithful escape) (fuel : Nat)
    (text : String) (rest : List Char) :
    readValue (fuel + 1) ((enclose escape text).toList ++ rest) = some (.string text, rest) := by
  have read := read_enclosed faithful text.toList rest
  have back := of_text_units text
  rw [readValue]
  simp [enclose, skipBlank, isBlank, read, back]

theorem parse_enclosed {escape : Char → List Char} (faithful : Faithful escape) (text : String) :
    parse? (enclose escape text) = some (.string text) := by
  apply parse_of_read
  have read := read_value_enclosed faithful (2 * (enclose escape text).toList.length + 1) text []
  rwa [List.append_nil] at read

/-- A script literal is one literal, which JSON reads as its text. It holds no character that could
end a script element or a line of script, and it is the JSON literal with these characters replaced
one after the other. -/
theorem script_literal_lossless (text : String) :
    (script text).toList = '"' :: (escaped text ++ ['"']) ∧ Inside (escaped text) ∧
      parse? (script text) = some (.string text) ∧
      (∀ c ∈ (script text).toList,
        c ∉ ['<', '>', '&', '\u2028', '\u2029'] ∧ ¬c.toNat < 0x20) ∧
      (script text).toList = replaceSpecial (json text).toList := by
  refine ⟨String.toList_ofList, escapes_inside text.toList,
    parse_enclosed escape_script_faithful text, ?_, (replace_special_json text).symm⟩
  intro c member
  have harmless : Harmless c := by
    simp only [script, enclose, String.toList_ofList, List.mem_cons, List.mem_append,
      List.mem_flatMap, List.not_mem_nil, or_false] at member
    rcases member with rfl | ⟨source, _, escaped⟩ | rfl
    · exact ⟨by decide, by decide⟩
    · exact escape_script_harmless source c escaped
    · exact ⟨by decide, by decide⟩
  exact ⟨harmless.1, Nat.not_lt.mpr harmless.2⟩

end Literal

end TemplateScript
