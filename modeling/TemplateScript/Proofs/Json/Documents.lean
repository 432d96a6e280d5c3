import Mathlib.Data.List.TakeWhile
import TemplateScript.Json.Fields
import TemplateScript.LoadError
import TemplateScript.Proofs.Json.Reading
import TemplateScript.Proofs.Number.Range

/-!
What documents are made of.

Written documents are plain: their numbers are words of 64 bits and their texts have characters. A
plain value is read back from its text, and it may stand in a tagged value. Fields that are written
under distinct names are found again, a tag is told from them, and the readers of single fields undo
their writers.
-/
namespace TemplateScript.Json

section Digits

variable (n : Nat)

theorem digits_all : ∀ c ∈ Nat.toDigits 10 n, c.isDigit = true :=
  fun _ member => Nat.isDigit_of_mem_toDigits (by decide) (by decide) member

theorem take_while_to_digits : (Nat.toDigits 10 n).takeWhile Char.isDigit = Nat.toDigits 10 n :=
  List.takeWhile_eq_self_iff.mpr (digits_all n)

theorem drop_while_to_digits : (Nat.toDigits 10 n).dropWhile Char.isDigit = [] :=
  List.dropWhile_eq_nil_iff.mpr (digits_all n)

theorem value_to_digits : Decimal.value (Nat.toDigits 10 n) = n :=
  Nat.ofDigitChars_ten_toDigits

theorem nat_of_lexeme_to_digits : natOfLexeme? (String.ofList (Nat.toDigits 10 n)) = some n := by
  have all : (Nat.toDigits 10 n).all Char.isDigit = true := List.all_eq_true.mpr (digits_all n)
  have some : (Nat.toDigits 10 n).isEmpty = false := by simp
  simp [natOfLexeme?, all, some, value_to_digits]

/-- Only zero is written with a zero in front. -/
theorem to_digits_start : n = 0 ∨ ∃ c rest, Nat.toDigits 10 n = c :: rest ∧ c ≠ '0' := by
  induction n using Nat.strongRecOn with
  | _ n ih =>
      by_cases zero : n = 0
      · exact .inl zero
      right
      by_cases small : n < 10
      · have digits : ∀ digit < 10, digit ≠ 0 → Nat.digitChar digit ≠ '0' := by decide
        exact ⟨_, [], Nat.toDigits_of_lt_base small, digits n small zero⟩
      · rcases ih (n / 10) (by omega) with none | ⟨c, rest, front, other⟩
        · omega
        · refine ⟨c, rest ++ [(n % 10).digitChar], ?_, other⟩
          rw [Nat.toDigits_of_base_le (by decide) (by omega), front]
          rfl

theorem read_number_to_digits :
    readNumber (Nat.toDigits 10 n) = some (Nat.toDigits 10 n, []) := by
  have whole : readWhole (Nat.toDigits 10 n) = some (Nat.toDigits 10 n, []) := by
    rcases to_digits_start n with rfl | ⟨c, rest, front, other⟩
    · rfl
    · have digits : readDigits (c :: rest) = some (c :: rest, []) := by
        rw [← front, readDigits, take_while_to_digits, drop_while_to_digits, front]
      rw [front, readWhole, digits]
      exact fun _ same => other (List.cons.inj same).1
  have unsigned : readUnsigned (Nat.toDigits 10 n) = some (Nat.toDigits 10 n, []) := by
    simp [readUnsigned, whole, readFraction, readPower]
  rw [readNumber, unsigned]
  intro rest front
  have digit := digits_all n '-' (by simp [front])
  exact absurd digit (by decide)

theorem lexeme_in_range_to_digits (word : n < 2 ^ 64) :
    lexemeInRange (String.ofList (Nat.toDigits 10 n)) = true := by
  have unsigned : Decimal.readSign (Nat.toDigits 10 n) = (false, Nat.toDigits 10 n) := by
    unfold Decimal.readSign
    split
    · next rest front => exact absurd (digits_all n '-' (by simp [front])) (by decide)
    · next rest front => exact absurd (digits_all n '+' (by simp [front])) (by decide)
    · rfl
  have parts : Decimal.parts? (Nat.toDigits 10 n) = some ⟨Nat.toDigits 10 n, [], 0⟩ := by
    simp [Decimal.parts?, take_while_to_digits, drop_while_to_digits, Decimal.readExponent?]
  have small : Decimal.value (Nat.toDigits 10 n) < 2 ^ 64 := by rwa [value_to_digits]
  have scaled := Scaled.of_parts_word small
  simp [lexemeInRange, unsigned, parts, scaled, value_to_digits, Scaled.in_range_word word]

end Digits

mutual

/-- Numbers are words of 64 bits, and texts have characters. -/
def Plain : Json → Prop
  | .number lexeme => ∃ n < 2 ^ 64, lexeme = String.ofList (Nat.toDigits 10 n)
  | .array items => ItemsPlain items
  | .object members => MembersPlain members
  | .unreadable => False
  | .null | .bool _ | .string _ => True

def ItemsPlain : List Json → Prop
  | [] => True
  | item :: rest => item.Plain ∧ ItemsPlain rest

def MembersPlain : List (String × Json) → Prop
  | [] => True
  | (_, value) :: rest => value.Plain ∧ MembersPlain rest

end

mutual

theorem Plain.well_formed : {json : Json} → json.Plain → json.wellFormed = true
  | .null, _ | .bool _, _ | .string _, _ => rfl
  | .number lexeme, ⟨n, _, written⟩ => by
      subst written
      simp [Json.wellFormed, read_number_to_digits]
  | .array items, plain => ItemsPlain.well_formed plain
  | .object members, plain => MembersPlain.well_formed plain

theorem ItemsPlain.well_formed : {items : List Json} → ItemsPlain items →
    itemsWellFormed items = true
  | [], _ => rfl
  | item :: rest, ⟨first, others⟩ => by
      rw [itemsWellFormed, first.well_formed, others.well_formed, Bool.true_and]

theorem MembersPlain.well_formed : {members : List (String × Json)} → MembersPlain members →
    membersWellFormed members = true
  | [], _ => rfl
  | (name, value) :: rest, ⟨first, others⟩ => by
      rw [membersWellFormed, first.well_formed, others.well_formed, Bool.true_and]

end

mutual

theorem Plain.readable : {json : Json} → json.Plain → json.readable = true
  | .null, _ | .bool _, _ | .string _, _ => rfl
  | .number lexeme, ⟨n, word, written⟩ => by
      subst written
      exact lexeme_in_range_to_digits n word
  | .array items, plain => ItemsPlain.readable plain
  | .object members, plain => MembersPlain.readable plain

theorem ItemsPlain.readable : {items : List Json} → ItemsPlain items → itemsReadable items = true
  | [], _ => rfl
  | item :: rest, ⟨first, others⟩ => by
      rw [itemsReadable, first.readable, others.readable, Bool.true_and]

theorem MembersPlain.readable : {members : List (String × Json)} → MembersPlain members →
    membersReadable members = true
  | [], _ => rfl
  | (name, value) :: rest, ⟨first, others⟩ => by
      rw [membersReadable, first.readable, others.readable, Bool.true_and]

end

theorem Plain.sound {json : Json} {nesting : Nat} (plain : json.Plain)
    (within : json.depth ≤ nesting) : json.sound nesting = true := by
  simp [Json.sound, within, plain.readable]

/-- A document that is taken as a value is loaded from its text as that value. -/
theorem Plain.load {α : Type} {read : Json → Option α} {json : Json} {value : α}
    (plain : json.Plain) (taken : read json = some value) :
    loadDocument read json.render = .ok value := by
  simp [loadDocument, parse_render plain.well_formed, acceptDocument, taken]

theorem taken_of_load {α : Type} {read : Json → Option α} {text : String} {value : α}
    (loaded : loadDocument read text = .ok value) : ∃ json, read json = some value := by
  unfold loadDocument acceptDocument at loaded
  split at loaded
  · next json _ =>
      split at loaded
      · next own =>
          cases loaded
          exact ⟨json, own⟩
      · cases loaded
  · cases loaded

theorem object_within {members : List (String × Json)} {nesting : Nat}
    (within : (Json.object members).depth ≤ nesting) :
    ∃ deeper, nesting = deeper + 1 ∧ depthOfMembers members ≤ deeper := by
  cases nesting with
  | zero => cases within
  | succ deeper => exact ⟨deeper, rfl, Nat.le_of_succ_le_succ within⟩

section Fields

variable {α : Type} {members : List (String × Json)} {names : List String}

theorem values_named_absent {name : String} (absent : name ∉ members.map Prod.fst) :
    valuesNamed name members = [] := by
  have none : members.filter (fun member => member.1 = name) = [] := by
    rw [List.filter_eq_nil_iff]
    intro member present same
    exact absent (List.mem_map.mpr ⟨member, present, by simpa using same⟩)
  rw [valuesNamed, none]
  rfl

theorem values_named_member (distinct : (members.map Prod.fst).Nodup) {name : String} {value : Json}
    (present : (name, value) ∈ members) : valuesNamed name members = [value] := by
  induction members with
  | nil => cases present
  | cons member others ih =>
      simp only [List.map_cons, List.nodup_cons] at distinct
      rcases List.mem_cons.mp present with rfl | later
      · have absent := values_named_absent distinct.1
        simp only [valuesNamed] at absent
        simp [valuesNamed, absent]
      · have apart : member.1 ≠ name := by
          rintro rfl
          exact distinct.1 (List.mem_map.mpr ⟨_, later, rfl⟩)
        have found := ih distinct.2 later
        simp only [valuesNamed] at found
        simp [valuesNamed, apart, found]

/-- Fields that are written under distinct names are all found. -/
@[simp] theorem fields_object (named : members.map Prod.fst = names) (distinct : names.Nodup) :
    fields? names (.object members) = some (members.map fun member => some member.2) := by
  subst named
  have each : ∀ part ⊆ members,
      (part.map Prod.fst).mapM (fun name => single? (valuesNamed name members)) =
        some (part.map fun member => some member.2) := by
    intro part inside
    induction part with
    | nil => rfl
    | cons member others ih =>
        have here : member ∈ members := inside List.mem_cons_self
        have rest := ih fun other later => inside (List.mem_cons_of_mem _ later)
        have found : single? (valuesNamed member.1 members) = some (some member.2) := by
          rw [values_named_member distinct here]
          rfl
        simp only [List.map_cons, List.mapM_cons, found, rest]
        rfl
  exact each members (List.Subset.refl _)

/-- A tag in front of fields with other names is told from them. -/
@[simp] theorem tagged_object {tag name : String} {variants : List (String × α)} {nested : Bool}
    (other : tag ∉ members.map Prod.fst) :
    tagged? tag variants nested (.object ((tag, .string name) :: members)) =
      (variants.lookup name).map fun variant => (variant, .object members) := by
  have absent := values_named_absent other
  have alone : valuesNamed tag ((tag, .string name) :: members) = [.string name] := by
    simp only [valuesNamed] at absent
    simp [valuesNamed, absent]
  have fields : ∀ (field : String) (value : Json), (field, value) ∈ members → ¬field = tag := by
    rintro field value present rfl
    exact other (List.mem_map.mpr ⟨_, present, rfl⟩)
  cases known : variants.lookup name with
  | none => simp [tagged?, alone, single?, variant?, known]
  | some variant => simpa [tagged?, alone, single?, variant?, known] using fields

end Fields

section Values

variable {α : Type} {read : Json → Option α} {write : α → Json}

theorem word_of_nat (word : UInt64) : word? (.ofNat word.toNat) = some word := by
  have bound : word.toNat < Nat.pow 2 64 := word.toNat_lt
  simp [word?, ofNat, nat_of_lexeme_to_digits, bound]

theorem list_cons {item : Json} {items : List Json} {value : α} {values : List α}
    (first : read item = some value) (others : list? read (.array items) = some values) :
    list? read (.array (item :: items)) = some (value :: values) := by
  simp only [list?] at others
  simp [list?, List.mapM_cons, first, others]

theorem list_written {values : List α} (each : ∀ value ∈ values, read (write value) = some value) :
    list? read (.array (values.map write)) = some values := by
  induction values with
  | nil => rfl
  | cons value others ih =>
      simp only [List.forall_mem_cons] at each
      exact list_cons each.1 (ih each.2)

theorem entries_cons {name : String} {json : Json} {members : List (String × Json)} {value : α}
    {entries : List (String × α)} (first : read json = some value)
    (others : entries? read (.object members) = some entries) :
    entries? read (.object ((name, json) :: members)) = some ((name, value) :: entries) := by
  simp only [entries?] at others
  simp [entries?, List.mapM_cons, first, others]

theorem nullable_present {json : Json} {value : α} (present : json ≠ .null)
    (own : read json = some value) : nullable? read (some json) = some (some value) := by
  rw [nullable?, own]
  · rfl
  · exact present

theorem of_option_plain (text : Option String) : (Json.ofOption .string text).Plain := by
  cases text <;> trivial

theorem nullable_text (text : Option String) :
    nullable? text? (some (.ofOption .string text)) = some text := by
  cases text <;> rfl

end Values

section Readers

theorem map_m_all {α β : Type} {read : α → Option β} {P : β → Prop}
    (each : ∀ item value, read item = some value → P value) {items : List α} {values : List β}
    (taken : items.mapM read = some values) : ∀ value ∈ values, P value := by
  induction items generalizing values with
  | nil =>
      cases taken
      simp
  | cons item rest ih =>
      simp only [List.mapM_cons, Option.bind_eq_bind, Option.bind_eq_some_iff, Option.pure_def,
        Option.some.injEq] at taken
      obtain ⟨first, read, others, rest, rfl⟩ := taken
      exact List.forall_mem_cons.mpr ⟨each item first read, ih rest⟩

variable {α : Type} {read : Json → Option α} {P : α → Prop}

theorem list_all (each : ∀ json value, read json = some value → P value) {json : Json}
    {values : List α} (taken : list? read json = some values) : ∀ value ∈ values, P value := by
  cases json with
  | array items => exact map_m_all each taken
  | _ => cases taken

theorem entries_all (each : ∀ json value, read json = some value → P value) {json : Json}
    {entries : List (String × α)} (taken : entries? read json = some entries) :
    ∀ entry ∈ entries, P entry.2 := by
  cases json with
  | object members =>
      refine map_m_all (fun member entry found => ?_) taken
      obtain ⟨value, own, rfl⟩ := Option.map_eq_some_iff.mp found
      exact each member.2 value own
  | _ => cases taken

theorem nullable_all (each : ∀ json value, read json = some value → P value)
    {field : Option Json} {found : Option α} (taken : nullable? read field = some found) :
    ∀ value, found = some value → P value := by
  rintro value rfl
  cases field with
  | none => cases taken
  | some json =>
      cases json with
      | null => cases taken
      | _ =>
          obtain ⟨_, own, same⟩ := Option.map_eq_some_iff.mp taken
          cases same
          exact each _ value own

end Readers

end TemplateScript.Json
