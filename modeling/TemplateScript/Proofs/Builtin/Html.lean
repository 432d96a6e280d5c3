import TemplateScript.Builtin.Call

/-!
Text escaped for a page.

A page reads a character reference as one character and everything else as it stands. The escapers
for pages write some characters as references, and these lose nothing: what they write holds none of
the characters that would end a text or an attribute, every ampersand in it begins a reference, and
a page reads it back as the text. Only U+0000, which no page may hold, is read as U+FFFD. An escaper
looks for the units of its class, and that these are just the units of its table is proved first.
-/
namespace TemplateScript.Escape

def ampersand : UInt16 := Units.unit '&'

def namedReferences : List (String × Char) :=
  [("amp", '&'), ("lt", '<'), ("gt", '>')]

def referenceCode? : List Char → Option Nat
  | '#' :: 'x' :: digits => Digits.value? 16 digits
  | '#' :: digits => Digits.value? 10 digits
  | name => (namedReferences.lookup (String.ofList name)).map Char.toNat

def denoted? (reference : Units) : Option UInt16 :=
  match Units.toChars? reference with
  | some ('&' :: inside) =>
      if inside.getLast? = some ';' then (referenceCode? inside.dropLast).map UInt16.ofNat else none
  | _ => none

def references (entries : Table) : List Units :=
  (entries.map Prod.snd).filter fun text => text.head? = some ampersand

/-- Reads a text in which the given references stand for units, after passing over the units that
are left of a reference. -/
def decodeAfter (known : List Units) : Nat → Units → Units
  | _, [] => []
  | left + 1, _ :: rest => decodeAfter known left rest
  | 0, u :: rest =>
      match known.find? fun reference => reference.isPrefixOf (u :: rest) with
      | some reference =>
          (denoted? reference).toList ++ decodeAfter known (reference.length - 1) rest
      | none => u :: decodeAfter known 0 rest

def decode (known : List Units) (text : Units) : Units :=
  decodeAfter known 0 text

/-- What a page shows for a unit. -/
def visible (u : UInt16) : UInt16 :=
  if u = 0 then 0xfffd else u

def FreeOf (unwanted : List Char) (text : Units) : Prop :=
  ∀ c ∈ unwanted, Units.unit c ∉ text

/-- Every ampersand is the beginning of one of the references. -/
def Referring (known : List Units) (text : Units) : Prop :=
  ∀ before after, text = before ++ ampersand :: after →
    ∃ reference ∈ known, reference <+: ampersand :: after

/-- A table that writes each of its units as a reference to it, or as what is shown for it, and that
leaves no ampersand as it is. None of its references begins another one. -/
structure Faithful (entries : Table) : Prop where
  ampersand_written : (entries.lookup ampersand).isSome = true
  zero_written : (entries.lookup 0).isSome = true
  denoting : ∀ entry ∈ entries,
    (entry.2 ∈ references entries ∧ denoted? entry.2 = some (visible entry.1) ∧
        ampersand ∉ entry.2.tail) ∨
      (entry.2 = [visible entry.1] ∧ visible entry.1 ≠ ampersand)
  separate : ∀ reference ∈ references entries, ∀ other ∈ references entries,
    reference <+: other → reference = other

/-- A table that writes all of the given characters, and none of them by itself. -/
structure Removes (unwanted : List Char) (entries : Table) : Prop where
  written : ∀ c ∈ unwanted, (entries.lookup (Units.unit c)).isSome = true
  absent : ∀ entry ∈ entries, FreeOf unwanted entry.2

def written (entries : Table) (u : UInt16) : Units :=
  (entries.lookup u).getD [u]

def writtenText (entries : Table) (text : Units) : Units :=
  text.flatMap (written entries)

/-- A class that holds just the units of a table. -/
def Covers (pattern : Class) (entries : Table) : Prop :=
  ∀ u, pattern.has u = (entries.lookup u).isSome

instance (unwanted : List Char) (text : Units) : Decidable (FreeOf unwanted text) :=
  decidable_of_iff (unwanted.all (fun c => Units.unit c ∉ text) = true) (by simp [FreeOf])

instance (entries : Table) : Decidable (Faithful entries) :=
  decidable_of_iff (_ ∧ _ ∧ _ ∧ _)
    ⟨fun ⟨first, zero, denoting, separate⟩ => ⟨first, zero, denoting, separate⟩,
      fun faithful => ⟨faithful.ampersand_written, faithful.zero_written, faithful.denoting,
        faithful.separate⟩⟩

instance (unwanted : List Char) (entries : Table) : Decidable (Removes unwanted entries) :=
  decidable_of_iff
    (unwanted.all (fun c => (entries.lookup (Units.unit c)).isSome) = true ∧
      ∀ entry ∈ entries, FreeOf unwanted entry.2)
    ⟨fun ⟨all, absent⟩ => ⟨List.all_eq_true.mp all, absent⟩,
      fun removes => ⟨List.all_eq_true.mpr removes.written, removes.absent⟩⟩

theorem written_text_cons (entries : Table) (u : UInt16) (rest : Units) :
    writtenText entries (u :: rest) = written entries u ++ writtenText entries rest := rfl

theorem mem_of_lookup {entries : Table} {u : UInt16} {text : Units}
    (found : entries.lookup u = some text) : (u, text) ∈ entries := by
  obtain ⟨before, after, rfl, _⟩ := List.lookup_eq_some_iff.mp found
  simp

section Classes

variable {pattern : Class} {entries : Table}

theorem lookup_is_some_iff (entries : Table) (u : UInt16) :
    (entries.lookup u).isSome = true ↔ u ∈ entries.map Prod.fst := by
  rw [List.lookup_isSome_iff]
  simp

theorem class_has_iff (pattern : Class) (u : UInt16) :
    pattern.has u = true ↔ u ∈ pattern.characters.map Units.unit ∨
      ∃ range ∈ pattern.ranges, Units.unit range.1 ≤ u ∧ u ≤ Units.unit range.2 := by
  simp [Class.has, Units.isOneOf]

theorem covers_of_keys (single : pattern.ranges = [])
    (keys : (pattern.characters.map Units.unit).Perm (entries.map Prod.fst)) :
    Covers pattern entries := by
  intro u
  rw [Bool.eq_iff_iff, class_has_iff, lookup_is_some_iff, keys.mem_iff, single]
  simp

/-- The rule for units outside of the table is never asked. -/
theorem replace_written (covers : Covers pattern entries) (otherwise : UInt16 → Units)
    (text : Units) : replace pattern entries otherwise text = writtenText entries text := by
  have same : (fun u => if pattern.has u then (entries.lookup u).getD (otherwise u) else [u]) =
      written entries := by
    funext u
    rw [covers u, written]
    cases entries.lookup u <;> rfl
  rw [replace, same, writtenText]

end Classes

theorem head_of_reference {entries : Table} {reference : Units}
    (known : reference ∈ references entries) : ∃ tail, reference = ampersand :: tail := by
  have first := (List.mem_filter.mp known).2
  cases reference with
  | nil => simp at first
  | cons u tail => exact ⟨tail, by simpa using first⟩

section Reading

variable {entries : Table} {known : List Units}

theorem decode_skipped (left : Units) (rest : Units) :
    decodeAfter known left.length (left ++ rest) = decode known rest := by
  induction left with
  | nil => rfl
  | cons u others ih => exact ih

theorem decode_other {u : UInt16} (other : u ≠ ampersand) (rest : Units) :
    decode (references entries) (u :: rest) = u :: decode (references entries) rest := by
  have unknown : (references entries).find?
      (fun reference => reference.isPrefixOf (u :: rest)) = none := by
    rw [List.find?_eq_none]
    intro reference known begins
    obtain ⟨tail, rfl⟩ := head_of_reference known
    have same := (List.cons_prefix_cons.mp (List.isPrefixOf_iff_prefix.mp begins)).1
    exact other same.symm
  simp only [decode, decodeAfter, unknown]

/-- A reference is read whatever follows it, since no other one begins like it. -/
theorem decode_reference (faithful : Faithful entries) {reference : Units}
    (known : reference ∈ references entries) {u : UInt16} (denotes : denoted? reference = some u)
    (rest : Units) :
    decode (references entries) (reference ++ rest) = u :: decode (references entries) rest := by
  obtain ⟨tail, rfl⟩ := head_of_reference known
  have found : (references entries).find?
      (fun other => other.isPrefixOf (ampersand :: (tail ++ rest))) =
        some (ampersand :: tail) := by
    have own : ampersand :: tail <+: ampersand :: (tail ++ rest) := List.prefix_append _ rest
    have present : ((references entries).find?
        fun other => other.isPrefixOf (ampersand :: (tail ++ rest))).isSome = true := by
      rw [List.find?_isSome]
      exact ⟨_, known, List.isPrefixOf_iff_prefix.mpr own⟩
    obtain ⟨first, isFirst⟩ := Option.isSome_iff_exists.mp present
    have starts := List.find?_some isFirst
    have begins := List.isPrefixOf_iff_prefix.mp starts
    have member := List.mem_of_find?_eq_some isFirst
    rw [isFirst]
    rcases List.prefix_or_prefix_of_prefix begins own with shorter | longer
    · rw [faithful.separate _ member _ known shorter]
    · rw [faithful.separate _ known _ member longer]
  have skipped : decodeAfter (references entries) tail.length (tail ++ rest) =
      decode (references entries) rest := decode_skipped tail rest
  simp only [decode, List.cons_append, decodeAfter, found, denotes, Option.toList_some,
    List.length_cons, Nat.add_sub_cancel, skipped, List.nil_append]

end Reading

section Table

variable {entries : Table} {unwanted : List Char}

/-- What is written for a unit is a reference to it, or what is shown for it. -/
theorem Faithful.written_cases (faithful : Faithful entries) (u : UInt16) :
    (written entries u ∈ references entries ∧ denoted? (written entries u) = some (visible u) ∧
        ampersand ∉ (written entries u).tail) ∨
      (written entries u = [visible u] ∧ visible u ≠ ampersand) := by
  cases found : entries.lookup u with
  | some text =>
      have kept : written entries u = text := by simp [written, found]
      rw [kept]
      exact faithful.denoting (u, text) (mem_of_lookup found)
  | none =>
      have apart : u ≠ ampersand := by
        rintro rfl
        simpa [found] using faithful.ampersand_written
      have nonzero : u ≠ 0 := by
        rintro rfl
        simpa [found] using faithful.zero_written
      simp [written, found, visible, nonzero, apart]

theorem Faithful.written_ne_nil (faithful : Faithful entries) (u : UInt16) :
    written entries u ≠ [] := by
  rcases faithful.written_cases u with ⟨known, _, _⟩ | ⟨single, _⟩
  · obtain ⟨tail, begins⟩ := head_of_reference known
    simp [begins]
  · simp [single]

theorem Faithful.written_text_ne_nil (faithful : Faithful entries) {text : Units}
    (filled : text ≠ []) : writtenText entries text ≠ [] := by
  cases text with
  | nil => exact absurd rfl filled
  | cons u rest => simp [writtenText, faithful.written_ne_nil u]

/-- A page reads what was written as the text. -/
theorem Faithful.decode_written (faithful : Faithful entries) (text : Units) :
    decode (references entries) (writtenText entries text) = text.map visible := by
  induction text with
  | nil => rfl
  | cons u rest ih =>
      rw [written_text_cons, List.map_cons, ← ih]
      rcases faithful.written_cases u with ⟨known, denotes, _⟩ | ⟨single, other⟩
      · exact decode_reference faithful known denotes _
      · rw [single]
        exact decode_other other _

theorem Faithful.referring_written (faithful : Faithful entries) (text : Units) :
    Referring (references entries) (writtenText entries text) := by
  induction text with
  | nil =>
      intro before after split
      simp [writtenText] at split
  | cons u rest ih =>
      intro before after split
      rw [written_text_cons] at split
      -- the ampersand is in what was written for the first unit, or behind it
      rcases List.append_eq_append_iff.mp split with ⟨more, rfl, behind⟩ | ⟨more, inside, behind⟩
      · exact ih more after behind
      · cases more with
        | nil => exact ih [] after (by simpa using behind.symm)
        | cons first others =>
            obtain ⟨rfl, rfl⟩ := List.cons_eq_cons.mp behind
            rcases faithful.written_cases u with ⟨known, _, only⟩ | ⟨single, other⟩
            · cases before with
              | nil => exact ⟨_, known, by simp [inside]⟩
              | cons start between => simp [inside] at only
            · rw [single] at inside
              cases before with
              | nil => simp at inside; exact absurd inside.1 other
              | cons start between => simp at inside

theorem Removes.free_written (removes : Removes unwanted entries) (text : Units) :
    FreeOf unwanted (writtenText entries text) := by
  intro c listed member
  obtain ⟨u, _, inside⟩ := List.mem_flatMap.mp member
  rw [Escape.written] at inside
  cases found : entries.lookup u with
  | some kept =>
      rw [found, Option.getD_some] at inside
      exact removes.absent _ (mem_of_lookup found) c listed inside
  | none =>
      rw [found, Option.getD_none, List.mem_singleton] at inside
      have known := removes.written c listed
      rw [inside, found] at known
      cases known

end Table

def textUnwanted : List Char := ['\x00', '"', '\x27', '<', '>']

def attributeUnwanted : List Char := '+' :: textUnwanted

/-- Characters that would end an attribute without quotes. -/
def unquotedUnwanted : List Char :=
  ['\t', '\n', '\x0b', '\x0c', '\r', ' ', '=', '\x60'] ++ attributeUnwanted

def pageTables : List (Table × List Char) :=
  [(htmlText, textUnwanted), (htmlAttribute, attributeUnwanted), (htmlUnquoted, unquotedUnwanted)]

theorem page_tables_sound : ∀ page ∈ pageTables, Faithful page.1 ∧ Removes page.2 page.1 := by
  decide +kernel

theorem html_text_sound : Faithful htmlText ∧ Removes textUnwanted htmlText :=
  page_tables_sound (htmlText, textUnwanted) (by simp [pageTables])

theorem html_attribute_sound : Faithful htmlAttribute ∧ Removes attributeUnwanted htmlAttribute :=
  page_tables_sound (htmlAttribute, attributeUnwanted) (by simp [pageTables])

theorem html_unquoted_sound : Faithful htmlUnquoted ∧ Removes unquotedUnwanted htmlUnquoted :=
  page_tables_sound (htmlUnquoted, unquotedUnwanted) (by simp [pageTables])

/-- Each class is written down with the characters of its table. -/
theorem page_classes_cover : Covers htmlTextClass htmlText ∧
    Covers htmlAttributeClass htmlAttribute ∧ Covers htmlUnquotedClass htmlUnquoted :=
  ⟨covers_of_keys rfl (by decide), covers_of_keys rfl (by decide), covers_of_keys rfl (by decide)⟩

theorem html_written (text : Units) : html text = writtenText htmlText text :=
  replace_written page_classes_cover.1 missing text

theorem html_quoted_written (text : Units) : htmlQuoted text = writtenText htmlAttribute text :=
  replace_written page_classes_cover.2.1 missing text

theorem html_no_space_written {text : Units} (filled : text ≠ []) :
    htmlNoSpace text = writtenText htmlUnquoted text := by
  rw [htmlNoSpace, if_neg (by simpa using filled)]
  exact replace_written page_classes_cover.2.2 missing text

theorem refused_plain :
    units refused ≠ [] ∧ ampersand ∉ units refused ∧ FreeOf unquotedUnwanted (units refused) := by
  decide +kernel

theorem html_no_space_free (text : Units) : FreeOf unquotedUnwanted (htmlNoSpace text) := by
  cases text with
  | nil => exact refused_plain.2.2
  | cons u rest =>
      rw [html_no_space_written (List.cons_ne_nil u rest)]
      exact html_unquoted_sound.2.free_written (u :: rest)

theorem html_no_space_referring (text : Units) :
    Referring (references htmlUnquoted) (htmlNoSpace text) := by
  cases text with
  | nil =>
      intro before after split
      have absent : ampersand ∉ htmlNoSpace [] := refused_plain.2.1
      exact absurd (by simp [split]) absent
  | cons u rest =>
      rw [html_no_space_written (List.cons_ne_nil u rest)]
      exact html_unquoted_sound.1.referring_written (u :: rest)

theorem html_no_space_ne_nil (text : Units) : htmlNoSpace text ≠ [] := by
  cases text with
  | nil => exact refused_plain.1
  | cons u rest =>
      have filled : u :: rest ≠ [] := List.cons_ne_nil u rest
      rw [html_no_space_written filled]
      exact html_unquoted_sound.1.written_text_ne_nil filled

def quotedEscapers : List String :=
  ["_html_template_htmlescaper", "_html_template_attrescaper", "_html_template_rcdataescaper"]

/-- Whatever the arguments are, each escaper for pages returns a text without the characters that it
has to remove, in which every ampersand begins one of the references of its table, and from which a
page reads the printed arguments. An attribute without quotes is never empty; it cannot be read back
where nothing was printed, since something else is written then. -/
theorem html_escaping_safe_and_lossless (args : List Value) :
    (∃ out, Builtin.call? "html" args = some (.ok (.string out)) ∧
      FreeOf textUnwanted out ∧ Referring (references htmlText) out ∧
      decode (references htmlText) out = (Value.stringify args).map visible) ∧
    (∀ name ∈ quotedEscapers, ∃ out, Builtin.call? name args = some (.ok (.string out)) ∧
      FreeOf attributeUnwanted out ∧ Referring (references htmlAttribute) out ∧
      decode (references htmlAttribute) out = (Value.stringify args).map visible) ∧
    ∃ out, Builtin.call? "_html_template_nospaceescaper" args = some (.ok (.string out)) ∧
      out ≠ [] ∧ FreeOf unquotedUnwanted out ∧ Referring (references htmlUnquoted) out ∧
      (Value.stringify args ≠ [] →
        decode (references htmlUnquoted) out = (Value.stringify args).map visible) := by
  refine ⟨⟨_, rfl, ?_⟩, ?_, ⟨_, rfl, ?_⟩⟩
  · rw [html_written]
    exact ⟨html_text_sound.2.free_written _, html_text_sound.1.referring_written _,
      html_text_sound.1.decode_written _⟩
  · intro name listed
    have called : Builtin.call? name args =
        some (.ok (.string (htmlQuoted (Value.stringify args)))) := by
      simp only [quotedEscapers, List.mem_cons, List.not_mem_nil, or_false] at listed
      rcases listed with rfl | rfl | rfl <;> rfl
    refine ⟨_, called, ?_⟩
    rw [html_quoted_written]
    exact ⟨html_attribute_sound.2.free_written _, html_attribute_sound.1.referring_written _,
      html_attribute_sound.1.decode_written _⟩
  · refine ⟨html_no_space_ne_nil _, html_no_space_free _, html_no_space_referring _, ?_⟩
    intro filled
    rw [html_no_space_written filled]
    exact html_unquoted_sound.1.decode_written _

def hostileArguments : List Value :=
  [.string (units "<a href='?x=1&amp;y'>\x00"), .number (Double.ofNat 7), .null]

theorem hostile_arguments_escaped :
    "_html_template_attrescaper" ∈ quotedEscapers ∧ Value.stringify hostileArguments ≠ [] ∧
    (∃ out, Builtin.call? "_html_template_attrescaper" hostileArguments =
        some (.ok (.string out)) ∧ FreeOf attributeUnwanted out ∧
      decode (references htmlAttribute) out = units "<a href='?x=1&amp;y'>\ufffd7 <nil>") ∧
    ∃ out, Builtin.call? "_html_template_nospaceescaper" hostileArguments =
        some (.ok (.string out)) ∧ FreeOf unquotedUnwanted out ∧
      decode (references htmlUnquoted) out = units "<a href='?x=1&amp;y'>\ufffd7 <nil>" := by
  have listed : "_html_template_attrescaper" ∈ quotedEscapers := by decide
  have filled : Value.stringify hostileArguments ≠ [] := by decide +kernel
  have shown : (Value.stringify hostileArguments).map visible =
      units "<a href='?x=1&amp;y'>\ufffd7 <nil>" := by decide +kernel
  obtain ⟨_, quoted, unquoted⟩ := html_escaping_safe_and_lossless hostileArguments
  obtain ⟨out, called, free, _, decoded⟩ := quoted _ listed
  obtain ⟨other, calledOther, _, freeOther, _, decodedOther⟩ := unquoted
  exact ⟨listed, filled, ⟨out, called, free, decoded.trans shown⟩, other, calledOther, freeOther,
    (decodedOther filled).trans shown⟩

end TemplateScript.Escape
