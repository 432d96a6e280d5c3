import TemplateScript.Proofs.Builtin.Html
import TemplateScript.Proofs.Json.Reading

/-!
Values embedded in a script.

A value is embedded as its JSON text in which some characters are replaced by their codes. Outside
of literals a JSON text has none of these characters, and inside of one such a character stands by
itself, so what is replaced is the inside of an escape that a reader undoes. A text that begins or
ends with a word is set apart by spaces, which a reader passes over.
-/
namespace TemplateScript

namespace Literal

/-- A special character by its code, and every other one as it is. -/
def escapeSpecial (c : Char) : List Char :=
  if c ∈ scriptSpecial then unicodeEscape c.toNat else [c]

theorem escape_special_plain {text : List Char} (plain : ∀ c ∈ text, c ∉ scriptSpecial) :
    text.flatMap escapeSpecial = text := by
  induction text with
  | nil => rfl
  | cons c rest ih =>
      rw [List.forall_mem_cons] at plain
      rw [List.flatMap_cons, escapeSpecial, if_neg plain.1, ih plain.2]
      rfl

/-- No escape of JSON is touched, and a character that JSON leaves alone is special or not. -/
theorem escape_special_escape (c : Char) :
    (escapeJson c).flatMap escapeSpecial = escapeScript c := by
  by_cases special : c ∈ scriptSpecial
  · simp only [scriptSpecial, List.mem_cons, List.not_mem_nil, or_false] at special
    rcases special with rfl | rfl | rfl | rfl | rfl <;> decide
  · rw [escapeScript, if_neg special]
    apply escape_special_plain
    intro d member
    exact (escape_json_harmless special d member).1

theorem escape_special_enclosed (text : String) :
    (enclose escapeJson text).toList.flatMap escapeSpecial =
      (enclose escapeScript text).toList := by
  have quote : escapeSpecial '"' = ['"'] := by decide
  have escapes (characters : List Char) :
      (characters.flatMap escapeJson).flatMap escapeSpecial = characters.flatMap escapeScript := by
    rw [List.flatMap_assoc]
    exact congrArg characters.flatMap (funext escape_special_escape)
  simp only [enclose, String.toList_ofList, List.flatMap_cons, List.flatMap_append, quote, escapes,
    List.flatMap_nil, List.append_nil]
  rfl

end Literal

namespace Json

open Literal

mutual

/-- Built from null, Booleans, texts that have characters, arrays and objects. -/
def numberless : Json → Bool
  | .number _ | .unreadable => false
  | .array items => itemsNumberless items
  | .object members => membersNumberless members
  | .null | .bool _ | .string _ => true

def itemsNumberless : List Json → Bool
  | [] => true
  | item :: rest => item.numberless && itemsNumberless rest

def membersNumberless : List (String × Json) → Bool
  | [] => true
  | (_, value) :: rest => value.numberless && membersNumberless rest

end

mutual

theorem well_formed_of_numberless : (json : Json) → json.numberless = true → json.wellFormed = true
  | .null, _ | .bool _, _ | .string _, _ => rfl
  | .number _, plain | .unreadable, plain => by cases plain
  | .array items, plain => items_well_formed_of_numberless items plain
  | .object members, plain => members_well_formed_of_numberless members plain

theorem items_well_formed_of_numberless : (items : List Json) → itemsNumberless items = true →
    itemsWellFormed items = true
  | [], _ => rfl
  | item :: rest, plain => by
      rw [itemsNumberless, Bool.and_eq_true] at plain
      rw [itemsWellFormed, well_formed_of_numberless item plain.1,
        items_well_formed_of_numberless rest plain.2, Bool.true_and]

theorem members_well_formed_of_numberless : (members : List (String × Json)) →
    membersNumberless members = true → membersWellFormed members = true
  | [], _ => rfl
  | (name, value) :: rest, plain => by
      rw [membersNumberless, Bool.and_eq_true] at plain
      rw [membersWellFormed, well_formed_of_numberless value plain.1,
        members_well_formed_of_numberless rest plain.2, Bool.true_and]

end

theorem escape_special_name (name : String) :
    (nameText escapeJson name).flatMap escapeSpecial = nameText escapeScript name := by
  have colon : [':'].flatMap escapeSpecial = [':'] := by decide
  rw [nameText, nameText, List.flatMap_append, escape_special_enclosed, colon]

mutual

/-- Replacing the special characters of a text changes the escaping of its literals and nothing
else. -/
theorem escape_special_render : (json : Json) → json.numberless = true →
    (json.renderBy escapeJson).toList.flatMap escapeSpecial = (json.renderBy escapeScript).toList
  | .null, _ => by
      rw [renderBy, renderBy]
      decide
  | .bool true, _ => by
      rw [renderBy, renderBy]
      decide
  | .bool false, _ => by
      rw [renderBy, renderBy]
      decide
  | .number _, plain | .unreadable, plain => by cases plain
  | .string text, _ => escape_special_enclosed text
  | .array items, plain => by
      have opening : "[".toList.flatMap escapeSpecial = "[".toList := by decide
      have closing : "]".toList.flatMap escapeSpecial = "]".toList := by decide
      have inside := escape_special_items items plain
      rw [itemsText, itemsText] at inside
      simp only [renderBy, String.toList_append, List.flatMap_append, opening, inside, closing]
  | .object members, plain => by
      have opening : "\x7b".toList.flatMap escapeSpecial = "\x7b".toList := by decide
      have closing : "\x7d".toList.flatMap escapeSpecial = "\x7d".toList := by decide
      have inside := escape_special_members members plain
      rw [membersText, membersText] at inside
      simp only [renderBy, String.toList_append, List.flatMap_append, opening, inside, closing]

theorem escape_special_items : (items : List Json) → itemsNumberless items = true →
    (itemsText escapeJson items).flatMap escapeSpecial = itemsText escapeScript items
  | [], _ => rfl
  | [item], plain => by
      rw [itemsNumberless, Bool.and_eq_true] at plain
      rw [items_text_single, items_text_single, escape_special_render item plain.1]
  | item :: second :: rest, plain => by
      rw [itemsNumberless, Bool.and_eq_true] at plain
      have comma : escapeSpecial ',' = [','] := by decide
      have more : second :: rest ≠ [] := List.cons_ne_nil _ _
      rw [items_text_cons item more, items_text_cons item more, List.flatMap_append,
        List.flatMap_cons, escape_special_render item plain.1, comma,
        escape_special_items (second :: rest) plain.2]
      rfl

theorem escape_special_members : (members : List (String × Json)) →
    membersNumberless members = true →
    (membersText escapeJson members).flatMap escapeSpecial = membersText escapeScript members
  | [], _ => rfl
  | [(name, value)], plain => by
      rw [membersNumberless, Bool.and_eq_true] at plain
      rw [members_text_single, members_text_single, List.flatMap_append, escape_special_name,
        escape_special_render value plain.1]
  | (name, value) :: second :: rest, plain => by
      rw [membersNumberless, Bool.and_eq_true] at plain
      have comma : escapeSpecial ',' = [','] := by decide
      have more : second :: rest ≠ [] := List.cons_ne_nil _ _
      rw [members_text_cons name value more, members_text_cons name value more, List.flatMap_append,
        List.flatMap_append, List.flatMap_cons, escape_special_name,
        escape_special_render value plain.1, comma, escape_special_members (second :: rest) plain.2]
      rfl

end

end Json

namespace Value

mutual

def ofJson : Json → Value
  | .null => .null
  | .bool value => .bool value
  | .number lexeme => ((Json.doubleOfLexeme? lexeme).map .number).getD .undefined
  | .string text => .string (units text)
  | .array items => .array (ofJsonItems items)
  | .object members => .object (ofJsonMembers members)
  | .unreadable => .undefined

def ofJsonItems : List Json → List Value
  | [] => []
  | item :: rest => ofJson item :: ofJsonItems rest

def ofJsonMembers : List (String × Json) → List (Units × Value)
  | [] => []
  | (name, value) :: rest => (units name, ofJson value) :: ofJsonMembers rest

end

theorem units_append (first second : String) :
    units (first ++ second) = units first ++ units second := by
  rw [units, String.toList_append, Units.of_chars_append]
  rfl

theorem join_units (pieces : List String) :
    Units.join (units ",") (pieces.map units) = units (",".intercalate pieces) := by
  induction pieces with
  | nil => rfl
  | cons first rest ih =>
      cases rest with
      | nil => rw [List.map_cons, List.map_nil, Units.join, String.intercalate_singleton]
      | cons second rest =>
          rw [List.map_cons] at ih
          rw [List.map_cons, List.map_cons, Units.join, ih, String.intercalate_cons_cons,
            units_append, units_append]

section Texts

theorem json_escape_large {u : UInt16} (large : ¬u.toNat < 0x80) : jsonEscape u = [u] := by
  have apart (v : UInt16) (small : v.toNat < 0x80) : u ≠ v := by
    rintro rfl
    exact large small
  have visible : ¬u < 0x20 := by
    intro less
    have code : u.toNat < 0x20 := UInt16.lt_iff_toNat_lt.mp less
    omega
  simp only [jsonEscape, apart 0x22 (by decide), apart 0x5c (by decide), apart 0x08 (by decide),
    apart 0x0c (by decide), apart 0x0a (by decide), apart 0x0d (by decide), apart 0x09 (by decide),
    visible, if_false]

theorem escape_json_large {c : Char} (large : ¬c.toNat < 0x80) : Literal.escapeJson c = [c] := by
  have apart (d : Char) (small : d.toNat < 0x80) : c ≠ d := by
    rintro rfl
    exact large small
  have visible : ¬c.toNat < 0x20 := by omega
  simp only [Literal.escapeJson, apart '"' (by decide), apart '\\' (by decide),
    apart '\x08' (by decide), apart '\x0c' (by decide), apart '\n' (by decide),
    apart '\r' (by decide), apart '\t' (by decide), visible, if_false]

theorem json_escape_unit {c : Char} (small : c.toNat < 0x10000) :
    jsonEscape (Units.unit c) = Units.ofChars (Literal.escapeJson c) := by
  have code := Units.to_nat_unit small
  by_cases ascii : c.toNat < 0x80
  · have all : ∀ code < 0x80, jsonEscape (Units.unit (Char.ofNat code)) =
        Units.ofChars (Literal.escapeJson (Char.ofNat code)) := by
      decide +kernel
    have found := all c.toNat ascii
    rwa [Char.ofNat_toNat] at found
  · rw [json_escape_large (code ▸ ascii), escape_json_large ascii, Units.of_chars_cons,
      Units.ofChar, if_pos small]
    rfl

theorem json_inside_of_char (c : Char) (rest : Units) :
    jsonInside (Units.ofChar c ++ rest) =
      Units.ofChars (Literal.escapeJson c) ++ jsonInside rest := by
  rcases Units.of_char_cases c with ⟨small, single, notHigh, notLow⟩ |
    ⟨high, low, beyond, halves, isFirst, isSecond, _⟩
  · rw [single, List.singleton_append, jsonInside.eq_def]
    simp only [notHigh, notLow, Bool.false_eq_true, if_false, json_escape_unit small]
  · rw [escape_json_large (by omega), Units.of_chars_cons, halves, List.cons_append,
      List.singleton_append, jsonInside.eq_def]
    simp only [isFirst, isSecond, if_true]
    rfl

theorem json_string_units (text : String) :
    jsonString (units text) = units (Literal.enclose Literal.escapeJson text) := by
  have inside (characters : List Char) : jsonInside (Units.ofChars characters) =
      Units.ofChars (characters.flatMap Literal.escapeJson) := by
    induction characters with
    | nil => rfl
    | cons c rest ih =>
        rw [Units.of_chars_cons, json_inside_of_char, ih, List.flatMap_cons, Units.of_chars_append]
  have enclosed : units (Literal.enclose Literal.escapeJson text) =
      Units.ofChars ('"' :: (text.toList.flatMap Literal.escapeJson ++ ['"'])) := by
    rw [units, Literal.enclose, String.toList_ofList]
  rw [enclosed, Units.of_chars_cons, Units.of_chars_append, ← inside]
  rfl

end Texts

theorem of_json_ne_function : (json : Json) → json.numberless = true → ofJson json ≠ .function
  | .null, _ | .bool _, _ | .string _, _ | .array _, _ | .object _, _ => nofun
  | .number _, plain | .unreadable, plain => by cases plain

theorem of_json_members_ne_function : (members : List (String × Json)) →
    Json.membersNumberless members = true → ∀ member ∈ ofJsonMembers members, member.2 ≠ .function
  | [], _ => nofun
  | (name, value) :: rest, plain => by
      rw [Json.membersNumberless, Bool.and_eq_true] at plain
      rw [ofJsonMembers, List.forall_mem_cons]
      exact ⟨of_json_ne_function value plain.1, of_json_members_ne_function rest plain.2⟩

/-- An object without functions has no method of its own. -/
theorem method_ne_own {members : List (Units × Value)} (name : String)
    (plain : ∀ member ∈ members, member.2 ≠ .function) : method name members ≠ .own := by
  unfold method
  split
  · nofun
  · next found =>
      obtain ⟨before, after, rfl, _⟩ := List.lookup_eq_some_iff.mp found
      exact absurd rfl (plain (units name, .function) (by simp))
  · nofun

mutual

/-- The JSON text of a value that a JSON value stands for is the text of the latter. -/
theorem json_of_json : (json : Json) → json.numberless = true →
    (ofJson json).json? = some (units (json.renderBy Literal.escapeJson))
  | .null, _ => rfl
  | .bool true, _ => rfl
  | .bool false, _ => rfl
  | .number _, plain | .unreadable, plain => by cases plain
  | .string text, _ => congrArg some (json_string_units text)
  | .array items, plain => by
      rw [ofJson, json?, json_items_of_json items plain, join_units, Json.renderBy, units_append,
        units_append]
  | .object members, plain => by
      rw [ofJson, json?,
        if_neg (method_ne_own "toJSON" (of_json_members_ne_function members plain)),
        json_members_of_json members plain, join_units, Json.renderBy, units_append, units_append]

theorem json_items_of_json : (items : List Json) → Json.itemsNumberless items = true →
    jsonItems (ofJsonItems items) = (Json.renderItemsBy Literal.escapeJson items).map units
  | [], _ => rfl
  | item :: rest, plain => by
      rw [Json.itemsNumberless, Bool.and_eq_true] at plain
      rw [ofJsonItems, jsonItems, json_of_json item plain.1, Option.getD_some,
        json_items_of_json rest plain.2, Json.renderItemsBy, List.map_cons]

theorem json_members_of_json : (members : List (String × Json)) →
    Json.membersNumberless members = true →
    jsonMembers (ofJsonMembers members) =
      (Json.renderMembersBy Literal.escapeJson members).map units
  | [], _ => rfl
  | (name, value) :: rest, plain => by
      rw [Json.membersNumberless, Bool.and_eq_true] at plain
      rw [ofJsonMembers, jsonMembers, json_of_json value plain.1, json_members_of_json rest plain.2,
        Json.renderMembersBy, List.map_cons, json_string_units, units_append, units_append]

end

end Value

namespace Escape

theorem written_plain {u : UInt16} (plain : ∀ c ∈ Literal.scriptSpecial, u ≠ Units.unit c) :
    written scriptValue u = [u] := by
  have keys : scriptValue.map Prod.fst = Literal.scriptSpecial.map Units.unit := by decide
  have absent : scriptValue.lookup u = none := by
    rw [List.lookup_eq_none_iff]
    intro entry member
    have key := List.mem_map_of_mem (f := Prod.fst) member
    rw [keys] at key
    obtain ⟨c, special, same⟩ := List.mem_map.mp key
    rw [bne_iff_ne, ← same]
    exact plain c special
  rw [written, absent]
  rfl

/-- Neither a character that is not special nor a half of one is taken for a special one. -/
theorem of_char_plain {c : Char} (plain : c ∉ Literal.scriptSpecial) :
    ∀ u ∈ Units.ofChar c, ∀ special ∈ Literal.scriptSpecial, u ≠ Units.unit special := by
  intro u member special listed
  have small := (Literal.special_small listed).2
  rcases Units.of_char_cases special with ⟨_, _, notHigh, notLow⟩ | ⟨_, _, large, _⟩
  · rcases Units.of_char_cases c with ⟨ownSmall, single, _⟩ |
      ⟨high, low, _, halves, isFirst, isSecond, _⟩
    · rw [single, List.mem_singleton] at member
      rintro rfl
      have code : c.toNat = special.toNat := by
        rw [← Units.to_nat_unit ownSmall, ← Units.to_nat_unit small, member]
      exact plain (Char.toNat_inj.mp code ▸ listed)
    · rintro rfl
      rw [halves, List.mem_cons, List.mem_singleton] at member
      rcases member with rfl | rfl
      · rw [notHigh] at isFirst
        cases isFirst
      · rw [notLow] at isSecond
        cases isSecond
  · exact absurd small large

theorem written_of_char (c : Char) :
    (Units.ofChar c).flatMap (written scriptValue) = Units.ofChars (Literal.escapeSpecial c) := by
  by_cases special : c ∈ Literal.scriptSpecial
  · simp only [Literal.scriptSpecial, List.mem_cons, List.not_mem_nil, or_false] at special
    rcases special with rfl | rfl | rfl | rfl | rfl <;> decide
  · have single : ∀ u ∈ Units.ofChar c, written scriptValue u = [u] := by
      intro u member
      exact written_plain (of_char_plain special u member)
    rw [Literal.escapeSpecial, if_neg special, Units.of_chars_cons, List.flatMap_congr single,
      List.flatMap_singleton']
    exact (List.append_nil _).symm

theorem script_value_covered : Covers scriptValueClass scriptValue :=
  covers_of_keys rfl (by decide)

theorem written_of_chars (characters : List Char) :
    writtenText scriptValue (Units.ofChars characters) =
      Units.ofChars (characters.flatMap Literal.escapeSpecial) := by
  induction characters with
  | nil => rfl
  | cons c rest ih =>
      have split : writtenText scriptValue (Units.ofChar c ++ Units.ofChars rest) =
          (Units.ofChar c).flatMap (written scriptValue) ++
            writtenText scriptValue (Units.ofChars rest) :=
        List.flatMap_append
      rw [Units.of_chars_cons, split, written_of_char, ih, List.flatMap_cons, Units.of_chars_append]

theorem embedded_text {json : Json} (plain : json.numberless = true) :
    writtenText scriptValue (units (json.renderBy Literal.escapeJson)) =
      units (json.renderBy Literal.escapeScript) := by
  rw [units, written_of_chars, Json.escape_special_render json plain]
  rfl

theorem script_value_removes : Removes ['<', '>', '&', '\u2028', '\u2029'] scriptValue := by
  decide +kernel

def wordCharacters : String :=
  "ABCDEFGHIJKLMNOPQRSTUVWXYZabcdefghijklmnopqrstuvwxyz0123456789_$"

def ends (text : Units) : Units :=
  text.head?.toList ++ text.getLast?.toList

/-- A text with a space before and behind it, where it starts or ends with a word. -/
def setApart (text : Units) : Units :=
  if startsOrEndsWord text then units " " ++ text ++ units " " else text

theorem is_word_of_mem {c : Char} (member : c ∈ wordCharacters.toList) :
    isWord (Units.unit c) = true := by
  have all : wordCharacters.toList.all (fun c => isWord (Units.unit c)) = true := by
    decide +kernel
  exact List.all_eq_true.mp all c member

theorem ends_spaced (text : Units) :
    ends (units " " ++ text ++ units " ") = [Units.unit ' ', Units.unit ' '] := by
  have space : units " " = [Units.unit ' '] := rfl
  rw [ends, space, List.getLast?_concat, List.append_assoc, List.singleton_append, List.head?_cons]
  rfl

theorem set_apart_ends (text : Units) : FreeOf wordCharacters.toList (ends (setApart text)) := by
  intro c listed member
  have word := is_word_of_mem listed
  unfold setApart at member
  split at member
  · have space : isWord (Units.unit ' ') = false := by decide
    rw [ends_spaced] at member
    simp only [List.mem_cons, List.not_mem_nil, or_false, or_self] at member
    rw [member, space] at word
    cases word
  · next bare =>
      rw [startsOrEndsWord, Bool.or_eq_true, not_or] at bare
      rcases List.mem_append.mp member with first | last
      · exact bare.1 (by simp [Option.mem_toList.mp first, word])
      · exact bare.2 (by simp [Option.mem_toList.mp last, word])

theorem set_apart_free {unwanted : List Char} {text : Units} (free : FreeOf unwanted text)
    (spaces : FreeOf unwanted (units " ")) : FreeOf unwanted (setApart text) := by
  unfold setApart
  split
  · intro c listed member
    simp only [List.mem_append] at member
    rcases member with (before | inside) | behind
    · exact spaces c listed before
    · exact free c listed inside
    · exact spaces c listed behind
  · exact free

theorem js_expression_of_json {json : Json} (plain : json.numberless = true) :
    jsExpression (Value.ofJson json) = setApart (units (json.renderBy Literal.escapeScript)) := by
  rw [jsExpression, Value.json_of_json json plain]
  simp only [replace_written script_value_covered, embedded_text plain]
  rfl

/-- A reader passes over the spaces that set a text apart. -/
theorem set_apart_read {json : Json} (plain : json.numberless = true) :
    ∃ text, Units.toString? (setApart (units (json.renderBy Literal.escapeScript))) = some text ∧
      Json.parse? text = some json := by
  have formed := Json.well_formed_of_numberless json plain
  unfold setApart
  split
  · refine ⟨" " ++ json.renderBy Literal.escapeScript ++ " ", ?_,
      Json.parse_spaced Literal.escape_script_faithful formed⟩
    rw [← Value.units_append, ← Value.units_append]
    exact Units.to_string_units _
  · exact ⟨_, Units.to_string_units _, Json.parse_render_by Literal.escape_script_faithful formed⟩

/-- A value built from null, Booleans, texts, arrays and objects is embedded in a script without any
of the characters that would end the script or a line of it. What is written neither starts nor ends
with a character of a word, and a reader of JSON gets the value from it, with the members of each
object in the order in which they are enumerated. -/
theorem embedded_value_safe_and_lossless {json : Json} (plain : json.numberless = true) :
    ∃ out text,
      Builtin.call? "_html_template_jsvalescaper" [Value.ofJson json] =
        some (.ok (.string out)) ∧
      FreeOf ['<', '>', '&', '\u2028', '\u2029'] out ∧ FreeOf wordCharacters.toList (ends out) ∧
      Units.toString? out = some text ∧ Json.parse? text = some json := by
  obtain ⟨text, written, read⟩ := set_apart_read plain
  have free : FreeOf ['<', '>', '&', '\u2028', '\u2029']
      (units (json.renderBy Literal.escapeScript)) := by
    rw [← embedded_text plain]
    exact script_value_removes.free_written _
  refine ⟨jsExpression (Value.ofJson json), text, rfl, ?_, ?_, ?_, read⟩ <;>
    rw [js_expression_of_json plain]
  · exact set_apart_free free (by decide)
  · exact set_apart_ends _
  · exact written

def hostileValue : Json :=
  .object [("</script>", .array [.null, .bool true, .string "a&&b \\u003c \u2028\"\n"]),
    ("😀", .object []), ("", .string "\x00")]

theorem hostile_value_embedded :
    hostileValue.numberless = true ∧
    ∃ out text,
      Builtin.call? "_html_template_jsvalescaper" [Value.ofJson hostileValue] =
        some (.ok (.string out)) ∧
      FreeOf ['<', '>', '&', '\u2028', '\u2029'] out ∧ FreeOf wordCharacters.toList (ends out) ∧
      Units.toString? out = some text ∧ Json.parse? text = some hostileValue := by
  have plain : hostileValue.numberless = true := by decide
  exact ⟨plain, embedded_value_safe_and_lossless plain⟩

example : jsExpression (.array [.bool true, .string (units "</a>")]) =
    units "[true,\"\\u003c/a\\u003e\"]" := by
  decide +kernel

end Escape

end TemplateScript
