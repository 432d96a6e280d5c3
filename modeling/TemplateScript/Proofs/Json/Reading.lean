import TemplateScript.Proofs.Text.Literal

/-!
Reading undoes writing.

A value is read back from its compact text, whatever follows, as long as what follows cannot
continue a number. How the literals in a text are escaped does not matter, if each character is read
back from its escape. Blanks are never written, and the length of a text is more than enough to
bound the calls that read it.
-/
namespace TemplateScript.Json

mutual

/-- The compact text of a value, with its literals in a given escaping. -/
def renderBy (escape : Char → List Char) : Json → String
  | .null => "null"
  | .bool true => "true"
  | .bool false => "false"
  | .number lexeme => lexeme
  | .string text => Literal.enclose escape text
  | .array items => "[" ++ ",".intercalate (renderItemsBy escape items) ++ "]"
  | .object members => "\x7b" ++ ",".intercalate (renderMembersBy escape members) ++ "\x7d"
  | .unreadable => render .unreadable

def renderItemsBy (escape : Char → List Char) : List Json → List String
  | [] => []
  | item :: rest => item.renderBy escape :: renderItemsBy escape rest

def renderMembersBy (escape : Char → List Char) : List (String × Json) → List String
  | [] => []
  | (name, value) :: rest =>
      (Literal.enclose escape name ++ ":" ++ value.renderBy escape) :: renderMembersBy escape rest

end

mutual

theorem render_eq_render_by : (json : Json) → json.render = json.renderBy Literal.escapeJson
  | .null | .bool true | .bool false | .number _ | .string _ | .unreadable => rfl
  | .array items => by rw [render, renderBy, render_items_eq_render_items_by items]
  | .object members => by rw [render, renderBy, render_members_eq_render_members_by members]

theorem render_items_eq_render_items_by : (items : List Json) →
    renderItems items = renderItemsBy Literal.escapeJson items
  | [] => rfl
  | item :: rest => by
      rw [renderItems, renderItemsBy, render_eq_render_by item,
        render_items_eq_render_items_by rest]

theorem render_members_eq_render_members_by : (members : List (String × Json)) →
    renderMembers members = renderMembersBy Literal.escapeJson members
  | [] => rfl
  | (name, value) :: rest => by
      rw [renderMembers, renderMembersBy, render_eq_render_by value,
        render_members_eq_render_members_by rest]
      rfl

end

mutual

/-- Every number is a lexeme of the grammar, and every text has characters. -/
def wellFormed : Json → Bool
  | .number lexeme => readNumber lexeme.toList = some (lexeme.toList, [])
  | .array items => itemsWellFormed items
  | .object members => membersWellFormed members
  | .unreadable => false
  | .null | .bool _ | .string _ => true

def itemsWellFormed : List Json → Bool
  | [] => true
  | item :: rest => item.wellFormed && itemsWellFormed rest

def membersWellFormed : List (String × Json) → Bool
  | [] => true
  | (_, value) :: rest => value.wellFormed && membersWellFormed rest

end

/-- What may follow a value inside another one, or nothing. -/
def Ends (rest : List Char) : Prop :=
  ∀ c ∈ rest.head?, c = ',' ∨ c = ']' ∨ c = '\x7d' ∨ c = ' '

theorem ends_nil : Ends [] := by
  simp [Ends]

theorem ends_cons {c : Char} (mark : c = ',' ∨ c = ']' ∨ c = '\x7d' ∨ c = ' ') (rest : List Char) :
    Ends (c :: rest) := by
  simpa [Ends] using mark

theorem ends_cases {rest : List Char} (ends : Ends rest) :
    rest = [] ∨ ∃ c after, rest = c :: after ∧ c.isDigit = false ∧
      c ∉ ['-', '+', '.', 'e', 'E'] := by
  cases rest with
  | nil => exact .inl rfl
  | cons c after =>
      refine .inr ⟨c, after, rfl, ?_⟩
      rcases ends c rfl with rfl | rfl | rfl | rfl <;> decide

section Numbers

variable {rest : List Char}

theorem digits_append (ends : Ends rest) (text : List Char) :
    (text ++ rest).takeWhile Char.isDigit = text.takeWhile Char.isDigit ∧
      (text ++ rest).dropWhile Char.isDigit = text.dropWhile Char.isDigit ++ rest := by
  induction text with
  | nil =>
      rcases ends_cases ends with rfl | ⟨c, after, rfl, other, _⟩
      · exact ⟨rfl, rfl⟩
      · simp [other]
  | cons c others ih =>
      by_cases digit : c.isDigit = true
      · simp [digit, ih]
      · simp [digit]

/-- What a reader leaves of a text, with more behind it. -/
def leaving (rest : List Char) : List Char × List Char → List Char × List Char
  | (taken, left) => (taken, left ++ rest)

theorem read_digits_append (ends : Ends rest) (text : List Char) :
    readDigits (text ++ rest) = (readDigits text).map (leaving rest) := by
  obtain ⟨taken, left⟩ := digits_append ends text
  unfold readDigits
  rw [taken, left]
  split <;> simp [leaving]

theorem read_whole_append (ends : Ends rest) (text : List Char) :
    readWhole (text ++ rest) = (readWhole text).map (leaving rest) := by
  cases text with
  | nil =>
      have digits := read_digits_append ends []
      rcases ends_cases ends with rfl | ⟨c, after, rfl, other, _⟩
      · rfl
      · have zero : c ≠ '0' := by
          rintro rfl
          exact absurd other (by decide)
        simpa [readWhole, zero] using digits
  | cons c others =>
      by_cases zero : c = '0'
      · subst zero
        rfl
      · simpa [readWhole, zero] using read_digits_append ends (c :: others)

theorem read_fraction_append (ends : Ends rest) (text : List Char) :
    readFraction (text ++ rest) = (readFraction text).map (leaving rest) := by
  cases text with
  | nil =>
      rcases ends_cases ends with rfl | ⟨c, after, rfl, _, other⟩
      · rfl
      · have point : c ≠ '.' := by
          rintro rfl
          simp at other
        simp [readFraction, leaving, point]
  | cons c others =>
      by_cases point : c = '.'
      · subst point
        simp only [List.cons_append, readFraction, read_digits_append ends others, Option.map_map]
        rfl
      · simp [readFraction, leaving, point]

theorem read_power_digits_append (ends : Ends rest) (mark text : List Char) :
    readPowerDigits mark (text ++ rest) = (readPowerDigits mark text).map (leaving rest) := by
  simp only [readPowerDigits, read_digits_append ends text, Option.map_map]
  rfl

theorem read_power_append (ends : Ends rest) (text : List Char) :
    readPower (text ++ rest) = (readPower text).map (leaving rest) := by
  cases text with
  | nil =>
      rcases ends_cases ends with rfl | ⟨c, after, rfl, _, other⟩
      · rfl
      · simp only [List.mem_cons, not_or] at other
        simp [readPower, leaving, other]
  | cons mark others =>
      by_cases power : mark = 'e' ∨ mark = 'E'
      · have digits := read_power_digits_append ends [mark] others
        cases others with
        | nil =>
            rcases ends_cases ends with rfl | ⟨c, after, rfl, _, other⟩
            · simp [readPower, power, readPowerDigits, readDigits]
            · simp only [List.mem_cons, not_or] at other
              simpa [readPower, power, other] using digits
        | cons sign digitsLeft =>
            by_cases plus : sign = '+'
            · subst plus
              simpa [readPower, power] using read_power_digits_append ends [mark, '+'] digitsLeft
            · by_cases minus : sign = '-'
              · subst minus
                simpa [readPower, power] using read_power_digits_append ends [mark, '-'] digitsLeft
              · simpa [readPower, power, plus, minus] using digits
      · simp [readPower, power, leaving]

theorem read_unsigned_append (ends : Ends rest) (text : List Char) :
    readUnsigned (text ++ rest) = (readUnsigned text).map (leaving rest) := by
  simp only [readUnsigned, read_whole_append ends]
  cases readWhole text with
  | none => rfl
  | some whole =>
      simp only [Option.map_some, leaving, Option.bind_eq_bind, Option.bind_some,
        read_fraction_append ends]
      cases readFraction whole.2 with
      | none => rfl
      | some fraction =>
          simp only [Option.map_some, leaving, Option.bind_some, read_power_append ends]
          cases readPower fraction.2 with
          | none => rfl
          | some power => rfl

theorem read_number_append (ends : Ends rest) (text : List Char) :
    readNumber (text ++ rest) = (readNumber text).map (leaving rest) := by
  cases text with
  | nil =>
      have unsigned := read_unsigned_append ends []
      rcases ends_cases ends with rfl | ⟨c, after, rfl, _, other⟩
      · rfl
      · simp only [List.mem_cons, not_or] at other
        simpa [readNumber, other] using unsigned
  | cons c others =>
      by_cases minus : c = '-'
      · subst minus
        simp only [List.cons_append, readNumber, read_unsigned_append ends others, Option.map_map]
        rfl
      · simpa [readNumber, minus] using read_unsigned_append ends (c :: others)

end Numbers

theorem number_start {text : List Char} {found : List Char × List Char}
    (read : readNumber text = some found) :
    ∃ c others, text = c :: others ∧ (c = '-' ∨ c.isDigit = true) := by
  cases text with
  | nil => cases read
  | cons c others =>
      refine ⟨c, others, rfl, ?_⟩
      by_cases minus : c = '-'
      · exact .inl minus
      · by_cases digit : c.isDigit = true
        · exact .inr digit
        · have zero : c ≠ '0' := by
            rintro rfl
            exact absurd digit (by decide)
          simp [readNumber, minus, readUnsigned, readWhole, zero, readDigits, digit] at read

/-- What a value is written with starts neither with a blank nor with a closing bracket. -/
def Starts (text : List Char) : Prop :=
  ∃ c others, text = c :: others ∧ isBlank c = false ∧ c ≠ ']'

theorem Starts.append {text : List Char} (starts : Starts text) (rest : List Char) :
    Starts (text ++ rest) := by
  obtain ⟨c, others, rfl, visible, mark⟩ := starts
  exact ⟨c, others ++ rest, rfl, visible, mark⟩

theorem number_starts {text : List Char} {found : List Char × List Char}
    (read : readNumber text = some found) : Starts text := by
  obtain ⟨c, others, rfl, start⟩ := number_start read
  refine ⟨c, others, rfl, ?_⟩
  rcases start with rfl | digit
  · decide
  · constructor
    · simp only [isBlank, Bool.or_eq_false_iff, decide_eq_false_iff_not]
      refine ⟨⟨⟨?_, ?_⟩, ?_⟩, ?_⟩ <;> (rintro rfl; exact absurd digit (by decide))
    · rintro rfl
      exact absurd digit (by decide)

section Writing

variable {escape : Char → List Char}

theorem render_starts (escape : Char → List Char) {json : Json}
    (formed : json.wellFormed = true) :
    Starts (json.renderBy escape).toList := by
  cases json with
  | null =>
      rw [renderBy]
      exact ⟨'n', _, rfl, by decide, by decide⟩
  | bool value =>
      cases value with
      | false =>
          rw [renderBy]
          exact ⟨'f', _, rfl, by decide, by decide⟩
      | true =>
          rw [renderBy]
          exact ⟨'t', _, rfl, by decide, by decide⟩
  | number lexeme =>
      simp only [wellFormed, decide_eq_true_eq] at formed
      exact number_starts formed
  | string text => exact ⟨'"', _, String.toList_ofList, by decide, by decide⟩
  | array items =>
      refine ⟨'[', (",".intercalate (renderItemsBy escape items)).toList ++ [']'], ?_, by decide,
        by decide⟩
      simp [renderBy]
  | object members =>
      refine ⟨'\x7b', (",".intercalate (renderMembersBy escape members)).toList ++ ['\x7d'], ?_,
        by decide, by decide⟩
      simp [renderBy]
  | unreadable => cases formed

theorem skip_blank_starts {text : List Char} (starts : Starts text) : skipBlank text = text := by
  obtain ⟨c, others, rfl, visible, _⟩ := starts
  simp [skipBlank, visible]

theorem read_value_number {fuel : Nat} {text : List Char} {found : List Char × List Char}
    (read : readNumber text = some found) :
    readValue (fuel + 1) text = some (.number (String.ofList found.1), found.2) := by
  have blank := skip_blank_starts (number_starts read)
  obtain ⟨c, others, rfl, start⟩ := number_start read
  have apart (mark : Char) (other : mark ≠ '-' ∧ mark.isDigit = false) : c ≠ mark := by
    rintro rfl
    rcases start with rfl | digit
    · exact other.1 rfl
    · simp [other.2] at digit
  rw [readValue, blank]
  simp only [List.cons.injEq, apart 'n' (by decide), apart 't' (by decide), apart 'f' (by decide),
    apart '"' (by decide), apart '[' (by decide), apart '\x7b' (by decide), false_and, read,
    IsEmpty.forall_iff, implies_true]
  rfl

theorem read_value_array {fuel : Nat} {text : List Char} (starts : Starts text) :
    readValue (fuel + 1) ('[' :: text) =
      (readItems fuel text).map fun (items, rest) => (.array items, rest) := by
  have opening : skipBlank ('[' :: text) = '[' :: text := by simp [skipBlank, isBlank]
  have blank := skip_blank_starts starts
  obtain ⟨c, others, rfl, _, mark⟩ := starts
  rw [readValue]
  simp only [opening, blank]
  simp [mark]

def unitNames (members : List (String × Json)) : List (Units × Json) :=
  members.map fun (name, value) => (units name, value)

theorem of_members_unit_names (members : List (String × Json)) :
    ofMembers (unitNames members) = .object members := by
  have back : (unitNames members).mapM
      (fun member => (Units.toString? member.1).map fun text => (text, member.2)) =
        some members := by
    induction members with
    | nil => rfl
    | cons member others ih =>
        simp only [unitNames] at ih
        simp [unitNames, List.mapM_cons, ih]
  rw [ofMembers, back]

def itemsText (escape : Char → List Char) (items : List Json) : List Char :=
  (",".intercalate (renderItemsBy escape items)).toList

theorem items_text_cons (item : Json) {others : List Json} (more : others ≠ []) :
    itemsText escape (item :: others) =
      (item.renderBy escape).toList ++ ',' :: itemsText escape others := by
  cases others with
  | nil => exact (more rfl).elim
  | cons second rest => simp [itemsText, renderItemsBy, String.intercalate_cons_cons]

theorem items_text_single (item : Json) :
    itemsText escape [item] = (item.renderBy escape).toList := by
  simp [itemsText, renderItemsBy]

def membersText (escape : Char → List Char) (members : List (String × Json)) : List Char :=
  (",".intercalate (renderMembersBy escape members)).toList

def nameText (escape : Char → List Char) (name : String) : List Char :=
  (Literal.enclose escape name).toList ++ [':']

theorem members_text_single (name : String) (value : Json) :
    membersText escape [(name, value)] =
      nameText escape name ++ (value.renderBy escape).toList := by
  simp [membersText, renderMembersBy, nameText]

theorem members_text_cons (name : String) (value : Json) {others : List (String × Json)}
    (more : others ≠ []) :
    membersText escape ((name, value) :: others) =
      nameText escape name ++
        ((value.renderBy escape).toList ++ ',' :: membersText escape others) := by
  cases others with
  | nil => exact (more rfl).elim
  | cons second rest =>
      simp [membersText, renderMembersBy, nameText, String.intercalate_cons_cons]

theorem members_text_quoted (escape : Char → List Char) (member : String × Json)
    (others : List (String × Json)) :
    ∃ text, membersText escape (member :: others) = '"' :: text := by
  obtain ⟨name, value⟩ := member
  by_cases last : others = []
  · subst last
    simp [members_text_single, nameText, Literal.enclose]
  · simp [members_text_cons name value last, nameText, Literal.enclose]

theorem read_value_object {fuel : Nat} (member : String × Json) (others : List (String × Json))
    (rest : List Char) :
    readValue (fuel + 1) ('\x7b' :: (membersText escape (member :: others) ++ rest)) =
      (readMembers fuel (membersText escape (member :: others) ++ rest)).map
        fun (members, rest) => (ofMembers members, rest) := by
  obtain ⟨text, quoted⟩ := members_text_quoted escape member others
  rw [quoted, readValue]
  simp [skipBlank, isBlank]

theorem items_text_starts (escape : Char → List Char) {item : Json}
    (formed : item.wellFormed = true) (others : List Json) :
    Starts (itemsText escape (item :: others)) := by
  by_cases last : others = []
  · subst last
    rw [items_text_single]
    exact render_starts escape formed
  · rw [items_text_cons item last]
    exact (render_starts escape formed).append _

theorem Starts.length_pos {text : List Char} (starts : Starts text) : 0 < text.length := by
  obtain ⟨c, others, rfl, _⟩ := starts
  simp

theorem read_members_last (faithful : Literal.Faithful escape) {fuel : Nat} (name : String)
    {text rest : List Char} {value : Json}
    (read : readValue fuel text = some (value, '\x7d' :: rest)) :
    readMembers (fuel + 1) (nameText escape name ++ text) =
      some (unitNames [(name, value)], rest) := by
  have named := Literal.read_enclosed faithful name.toList (':' :: text)
  rw [readMembers]
  simp [nameText, Literal.enclose, skipBlank, isBlank, named, read, unitNames, units]

theorem read_members_more (faithful : Literal.Faithful escape) {fuel : Nat} (name : String)
    {text after rest : List Char} {value : Json} {others : List (String × Json)}
    (read : readValue fuel text = some (value, ',' :: after))
    (more : readMembers fuel after = some (unitNames others, rest)) :
    readMembers (fuel + 1) (nameText escape name ++ text) =
      some (unitNames ((name, value) :: others), rest) := by
  have named := Literal.read_enclosed faithful name.toList (':' :: text)
  rw [readMembers]
  simp [nameText, Literal.enclose, skipBlank, isBlank, named, read, more, unitNames,
    units]

theorem read_number_text {lexeme : String} (formed : wellFormed (.number lexeme) = true)
    (fuel : Nat) {rest : List Char} (ends : Ends rest) :
    readValue (fuel + 1) ((renderBy escape (.number lexeme)).toList ++ rest) =
      some (.number lexeme, rest) := by
  simp only [wellFormed, decide_eq_true_eq] at formed
  have read : readNumber (lexeme.toList ++ rest) = some (lexeme.toList, rest) := by
    rw [read_number_append ends, formed]
    rfl
  simp [renderBy, read_value_number read]

/-- An array is read where its items are, with all the calls that they need. -/
theorem read_array_text {item : Json} {others : List Json} {fuel : Nat} {rest : List Char}
    (first : item.wellFormed = true)
    (enough : (renderBy escape (.array (item :: others))).toList.length ≤ fuel + 1)
    (read : ∀ calls, (itemsText escape (item :: others)).length ≤ calls →
      readItems (calls + 1) (itemsText escape (item :: others) ++ ']' :: rest) =
        some (item :: others, rest)) :
    readValue (fuel + 1) ((renderBy escape (.array (item :: others))).toList ++ rest) =
      some (.array (item :: others), rest) := by
  have text : (renderBy escape (.array (item :: others))).toList ++ rest =
      '[' :: (itemsText escape (item :: others) ++ ']' :: rest) := by
    simp [renderBy, itemsText]
  have starts := (items_text_starts escape first others).append (']' :: rest)
  have size : (itemsText escape (item :: others)).length + 2 ≤ fuel + 1 := by
    simpa [renderBy, itemsText, Nat.add_assoc] using enough
  obtain ⟨calls, rfl⟩ : ∃ calls, fuel = calls + 1 := ⟨fuel - 1, by omega⟩
  rw [text, read_value_array starts, read calls (by omega)]
  rfl

theorem read_object_text {member : String × Json} {others : List (String × Json)} {fuel : Nat}
    {rest : List Char}
    (enough : (renderBy escape (.object (member :: others))).toList.length ≤ fuel + 1)
    (read : ∀ calls, (membersText escape (member :: others)).length ≤ calls →
      readMembers (calls + 1) (membersText escape (member :: others) ++ '\x7d' :: rest) =
        some (unitNames (member :: others), rest)) :
    readValue (fuel + 1) ((renderBy escape (.object (member :: others))).toList ++ rest) =
      some (.object (member :: others), rest) := by
  have text : (renderBy escape (.object (member :: others))).toList ++ rest =
      '\x7b' :: (membersText escape (member :: others) ++ '\x7d' :: rest) := by
    simp [renderBy, membersText]
  have size : (membersText escape (member :: others)).length + 2 ≤ fuel + 1 := by
    simpa [renderBy, membersText, Nat.add_assoc] using enough
  obtain ⟨calls, rfl⟩ : ∃ calls, fuel = calls + 1 := ⟨fuel - 1, by omega⟩
  rw [text, read_value_object, read calls (by omega)]
  simp [of_members_unit_names]

mutual

theorem read_value_render (faithful : Literal.Faithful escape) : (json : Json) →
    json.wellFormed = true → ∀ (fuel : Nat) (rest : List Char), Ends rest →
    (json.renderBy escape).toList.length ≤ fuel + 1 →
    readValue (fuel + 1) ((json.renderBy escape).toList ++ rest) = some (json, rest)
  | .null | .bool true | .bool false => by
      intro _ fuel rest _ _
      simp [renderBy, readValue, skipBlank, isBlank]
  | .number lexeme => by
      intro formed fuel rest ends _
      exact read_number_text formed fuel ends
  | .string text => by
      intro _ fuel rest _ _
      exact Literal.read_value_enclosed faithful fuel text rest
  | .array [] => by
      intro _ fuel rest _ _
      simp [renderBy, renderItemsBy, readValue, skipBlank, isBlank]
  | .array (item :: others) => by
      intro formed fuel rest _ enough
      have first : item.wellFormed = true := by
        simp only [wellFormed, itemsWellFormed, Bool.and_eq_true] at formed
        exact formed.1
      apply read_array_text first enough
      intro calls size
      exact read_items_render faithful (item :: others) (by simp) formed calls rest size
  | .object [] => by
      intro _ fuel rest _ _
      simp [renderBy, renderMembersBy, readValue, skipBlank, isBlank]
  | .object (member :: others) => by
      intro formed fuel rest _ enough
      apply read_object_text enough
      intro calls size
      exact read_members_render faithful (member :: others) (by simp) formed calls rest size
  | .unreadable => by
      intro formed
      cases formed

theorem read_items_render (faithful : Literal.Faithful escape) :
    (items : List Json) → items ≠ [] → itemsWellFormed items = true →
    ∀ (fuel : Nat) (rest : List Char), (itemsText escape items).length ≤ fuel →
    readItems (fuel + 1) (itemsText escape items ++ ']' :: rest) = some (items, rest)
  | [] => by
      intro given
      exact (given rfl).elim
  | item :: others => by
      intro _ formed fuel rest enough
      rw [itemsWellFormed, Bool.and_eq_true] at formed
      have positive := (items_text_starts escape formed.1 others).length_pos
      obtain ⟨calls, rfl⟩ : ∃ calls, fuel = calls + 1 := ⟨fuel - 1, by omega⟩
      by_cases last : others = []
      · subst last
        rw [items_text_single] at enough ⊢
        have read := read_value_render faithful item formed.1 calls (']' :: rest)
          (ends_cons (by simp) rest) enough
        rw [readItems, read]
        simp [skipBlank, isBlank]
      · rw [items_text_cons item last, List.length_append, List.length_cons] at enough
        have first := read_value_render faithful item formed.1 calls
          (',' :: (itemsText escape others ++ ']' :: rest)) (ends_cons (by simp) _) (by omega)
        have more := read_items_render faithful others last formed.2 calls rest (by omega)
        rw [items_text_cons item last, List.append_assoc, List.cons_append, readItems, first]
        simp [skipBlank, isBlank, more]

theorem read_members_render (faithful : Literal.Faithful escape) :
    (members : List (String × Json)) → members ≠ [] → membersWellFormed members = true →
    ∀ (fuel : Nat) (rest : List Char), (membersText escape members).length ≤ fuel →
    readMembers (fuel + 1) (membersText escape members ++ '\x7d' :: rest) =
      some (unitNames members, rest)
  | [] => by
      intro given
      exact (given rfl).elim
  | (name, value) :: others => by
      intro _ formed fuel rest enough
      rw [membersWellFormed, Bool.and_eq_true] at formed
      have positive := (render_starts escape formed.1).length_pos
      by_cases last : others = []
      · subst last
        rw [members_text_single, List.length_append] at enough
        obtain ⟨calls, rfl⟩ : ∃ calls, fuel = calls + 1 := ⟨fuel - 1, by omega⟩
        have read := read_value_render faithful value formed.1 calls ('\x7d' :: rest)
          (ends_cons (by simp) rest) (by omega)
        rw [members_text_single, List.append_assoc]
        exact read_members_last faithful name read
      · rw [members_text_cons name value last, List.length_append, List.length_append,
          List.length_cons] at enough
        obtain ⟨calls, rfl⟩ : ∃ calls, fuel = calls + 1 := ⟨fuel - 1, by omega⟩
        have first := read_value_render faithful value formed.1 calls
          (',' :: (membersText escape others ++ '\x7d' :: rest)) (ends_cons (by simp) _) (by omega)
        have more := read_members_render faithful others last formed.2 calls rest (by omega)
        rw [members_text_cons name value last, List.append_assoc, List.append_assoc,
          List.cons_append]
        exact read_members_more faithful name first more

end

theorem parse_render_by (faithful : Literal.Faithful escape) {json : Json}
    (formed : json.wellFormed = true) :
    parse? (json.renderBy escape) = some json := by
  apply parse_of_read
  have read := read_value_render faithful json formed
    (2 * (json.renderBy escape).toList.length + 1) [] ends_nil (by omega)
  rwa [List.append_nil] at read

theorem parse_spaced (faithful : Literal.Faithful escape) {json : Json}
    (formed : json.wellFormed = true) :
    parse? (" " ++ json.renderBy escape ++ " ") = some json := by
  have text : (" " ++ json.renderBy escape ++ " ").toList =
      ' ' :: ((json.renderBy escape).toList ++ [' ']) := by
    simp
  have skipped (fuel : Nat) (rest : List Char) :
      readValue (fuel + 1) (' ' :: rest) = readValue (fuel + 1) rest := by
    have blank : skipBlank (' ' :: rest) = skipBlank rest := rfl
    rw [readValue, readValue, blank]
  have read := read_value_render faithful json formed
    (2 * (' ' :: ((json.renderBy escape).toList ++ [' '])).length + 1) [' ']
    (ends_cons (by simp) []) (by simp; omega)
  simp only [parse?, text, skipped, read]
  rfl

end Writing

theorem parse_render {json : Json} (formed : json.wellFormed = true) :
    parse? json.render = some json := by
  rw [render_eq_render_by]
  exact parse_render_by Literal.escape_json_faithful formed

end TemplateScript.Json
