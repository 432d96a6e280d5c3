import Mathlib.Data.List.Basic
import TemplateScript.Proofs.Builtin.Script
import TemplateScript.Proofs.Text.Units

/-!
Texts encoded for addresses.

On a text that has characters, both encoders of components work byte by byte: each byte of the
characters is kept as a unit of ASCII, or written as a percent sign with two digits. So what one
byte becomes says everything about the whole text. The encoders keep different bytes at first, but
the one for queries encodes the marks that the other one does not keep, and its last step replaces
each encoded space without ever meeting the end of one escape and the beginning of the next.
-/
namespace TemplateScript.Url

def percent : UInt16 := Units.unit '%'

/-- Units that belong to a surrogate pair. -/
def isHalf (u : UInt16) : Bool :=
  Units.isHigh u || Units.isLow u

def plus : UInt16 := Units.unit '+'

def bytes (characters : List Char) : List UInt8 :=
  characters.flatMap String.utf8EncodeChar

def encodeByte (keep : UInt16 → Bool) (byte : UInt8) : Units :=
  if keep byte.toUInt16 then [byte.toUInt16] else percentByte byte.toNat

def encode (keep : UInt16 → Bool) (characters : List Char) : Units :=
  (bytes characters).flatMap (encodeByte keep)

/-- An encoder keeps units of ASCII only, and never the percent sign. -/
structure Keeps (keep : UInt16 → Bool) : Prop where
  ascii : ∀ u, keep u = true → u.toNat < 0x80
  percent : keep percent = false

def byte? (high low : UInt16) : Option UInt8 :=
  (Digits.value? 16 [Char.ofNat high.toNat, Char.ofNat low.toNat]).map UInt8.ofNat

def decode? : Units → Option (List UInt8)
  | [] => some []
  | u :: rest =>
      if u = percent then
        match rest with
        | high :: low :: rest =>
            (byte? high low).bind fun byte => (decode? rest).map (byte :: ·)
        | _ => none
      else if u < 0x80 then (decode? rest).map (u.toUInt8 :: ·)
      else none

def spaceForPlus (u : UInt16) : UInt16 :=
  if u = plus then Units.unit ' ' else u

/-- The bytes that a text encoded for a form stands for. -/
def decodeForm? (text : Units) : Option (List UInt8) :=
  decode? (text.map spaceForPlus)

theorem bytes_cons (c : Char) (rest : List Char) :
    bytes (c :: rest) = String.utf8EncodeChar c ++ bytes rest :=
  List.flatMap_cons

theorem bytes_utf8 (text : String) : text.toUTF8.data.toList = bytes text.toList := by
  rw [bytes, String.toUTF8, ← String.utf8Encode_toList]
  simp [List.utf8Encode]

theorem utf8_ascii {c : Char} (small : c.toNat < 0x80) :
    String.utf8EncodeChar c = [UInt8.ofNat c.toNat] :=
  if_pos (Nat.le_of_lt_succ small)

/-- A character beyond ASCII has no byte of ASCII. -/
theorem utf8_large {c : Char} (large : ¬c.toNat < 0x80) :
    ∀ byte ∈ String.utf8EncodeChar c, ¬byte.toNat < 0x80 := by
  have beyond : ¬c.val.toNat ≤ 127 := fun small => large (Nat.lt_succ_of_le small)
  have marked (first mark : Nat) (fits : first + mark < 256) (high : 0x80 ≤ mark) :
      ¬(UInt8.ofNat (first + mark)).toNat < 0x80 := by
    rw [UInt8.toNat_ofNat', Nat.mod_eq_of_lt fits]
    omega
  intro byte member
  simp only [String.utf8EncodeChar, beyond, if_false] at member
  split at member
  · simp only [List.mem_cons, List.not_mem_nil, or_false] at member
    rcases member with rfl | rfl <;> apply marked <;> omega
  · split at member <;> simp only [List.mem_cons, List.not_mem_nil, or_false] at member
    · rcases member with rfl | rfl | rfl <;> apply marked <;> omega
    · rcases member with rfl | rfl | rfl | rfl <;> apply marked <;> omega

theorem alphanumeric_ascii {u : UInt16} (kept : isAlphanumeric u = true) : u.toNat < 0x80 := by
  have digit : (Units.unit '9').toNat = 0x39 := rfl
  have capital : (Units.unit 'Z').toNat = 0x5a := rfl
  have small : (Units.unit 'z').toNat = 0x7a := rfl
  simp only [isAlphanumeric, Units.isLetter, Units.isUpper, Units.isLower, Units.isDigit,
    Bool.or_eq_true, Bool.and_eq_true, decide_eq_true_eq, UInt16.le_iff_toNat_le, digit, capital,
    small] at kept
  omega

theorem is_one_of_ascii {characters : List Char} (ascii : characters.all (·.toNat < 0x80) = true)
    {u : UInt16} (listed : Units.isOneOf characters u = true) : u.toNat < 0x80 := by
  obtain ⟨c, member, rfl⟩ := List.mem_map.mp (List.contains_iff_mem.mp listed)
  have small : c.toNat < 0x80 := by simpa using List.all_eq_true.mp ascii c member
  rwa [Units.to_nat_unit (by omega)]

theorem keeps_marks {marks : List Char} (ascii : marks.all (·.toNat < 0x80) = true)
    (other : Units.isOneOf marks percent = false) :
    Keeps fun u => isAlphanumeric u || Units.isOneOf marks u := by
  constructor
  · intro u kept
    rcases Bool.or_eq_true_iff.mp kept with letter | mark
    · exact alphanumeric_ascii letter
    · exact is_one_of_ascii ascii mark
  · have letter : isAlphanumeric percent = false := by decide
    rw [letter, other, Bool.or_false]

theorem keeps_escaper : Keeps keptByEscaper :=
  keeps_marks (by decide) (by decide)

theorem keeps_component : Keeps keptByComponent :=
  keeps_marks (by decide) (by decide)

section Encoding

variable {keep : UInt16 → Bool}

theorem Keeps.beyond (keeps : Keeps keep) {u : UInt16} (beyond : ¬u.toNat < 0x80) :
    keep u = false := by
  rw [Bool.eq_false_iff]
  exact fun kept => beyond (keeps.ascii u kept)

theorem Keeps.apart (keeps : Keeps keep) {u : UInt16} (kept : keep u = true) :
    u ≠ Url.percent := by
  rintro rfl
  rw [keeps.percent] at kept
  cases kept

theorem half_beyond {u : UInt16} (half : isHalf u = true) : ¬u.toNat < 0x80 := by
  simp only [isHalf, Units.isHigh, Units.isLow, Surrogate.isHigh, Surrogate.isLow,
    Bool.or_eq_true, Bool.and_eq_true, decide_eq_true_eq] at half
  omega

theorem high_beyond {u : UInt16} (high : Units.isHigh u = true) : ¬u.toNat < 0x80 :=
  half_beyond (by rw [isHalf, high, Bool.true_or])

theorem percent_char_eq (c : Char) :
    percentChar c = (String.utf8EncodeChar c).flatMap fun byte => percentByte byte.toNat := rfl

theorem percent_char_ascii {c : Char} (small : c.toNat < 0x80) :
    percentChar c = percentByte c.toNat := by
  rw [percent_char_eq, utf8_ascii small, List.flatMap_singleton, UInt8.toNat_ofNat',
    Nat.mod_eq_of_lt (by omega)]

theorem encode_ascii {c : Char} (small : c.toNat < 0x80) :
    (String.utf8EncodeChar c).flatMap (encodeByte keep) =
      if keep (Units.unit c) then [Units.unit c] else percentByte c.toNat := by
  have code : (UInt8.ofNat c.toNat).toNat = c.toNat := by
    rw [UInt8.toNat_ofNat', Nat.mod_eq_of_lt (by omega)]
  have same : (UInt8.ofNat c.toNat).toUInt16 = Units.unit c := by
    apply UInt16.toNat_inj.mp
    rw [UInt8.toNat_toUInt16, code, Units.to_nat_unit (by omega)]
  rw [utf8_ascii small, List.flatMap_singleton, encodeByte, same, code]

/-- A character beyond ASCII is escaped as a whole. -/
theorem encode_large (keeps : Keeps keep) {c : Char} (large : ¬c.toNat < 0x80) :
    (String.utf8EncodeChar c).flatMap (encodeByte keep) = percentChar c := by
  rw [percent_char_eq]
  apply List.flatMap_congr
  intro byte member
  have beyond := utf8_large large byte member
  rw [encodeByte, keeps.beyond (by simpa using beyond), if_neg Bool.false_ne_true]

theorem encode_cons (c : Char) (rest : List Char) :
    encode keep (c :: rest) =
      (String.utf8EncodeChar c).flatMap (encodeByte keep) ++ encode keep rest := by
  rw [encode, bytes_cons, List.flatMap_append]
  rfl

/-- The encoder that replaces what has no character has nothing to replace. -/
theorem process_encodes (keeps : Keeps keep) (characters : List Char) :
    process keep (Units.ofChars characters) = encode keep characters := by
  -- The encoder takes units, so a character is a single one or a pair that it takes together.
  induction characters with
  | nil => rfl
  | cons c rest ih =>
      rw [Units.of_chars_cons, encode_cons, ← ih]
      rcases Units.of_char_cases c with ⟨small, single, notHigh, notLow⟩ |
        ⟨high, low, beyond, halves, isFirst, isSecond, together⟩
      · have code := Units.to_nat_unit small
        rw [single, List.singleton_append, process.eq_def]
        by_cases ascii : c.toNat < 0x80
        · have less : Units.unit c < 0x80 := UInt16.lt_iff_toNat_lt.mpr (code ▸ ascii)
          simp only [encode_ascii ascii, less, if_true, code]
          split <;> rfl
        · have other := keeps.beyond (code ▸ ascii)
          have notLess : ¬Units.unit c < 0x80 :=
            fun less => ascii (code ▸ UInt16.lt_iff_toNat_lt.mp less)
          simp only [encode_large keeps ascii, other, notLess, notHigh, notLow, code,
            Char.ofNat_toNat, if_false, Bool.false_eq_true]
      · have other := keeps.beyond (high_beyond isFirst)
        have notLess : ¬high < 0x80 :=
          fun less => high_beyond isFirst (UInt16.lt_iff_toNat_lt.mp less)
        rw [halves, List.cons_append, List.singleton_append, process.eq_def]
        simp only [encode_large keeps (show ¬c.toNat < 0x80 by omega), other, notLess, isFirst,
          isSecond, together, Bool.false_eq_true, if_true, if_false]

/-- The encoder that refuses what has no character has nothing to refuse. -/
theorem component_encodes (keeps : Keeps keptByComponent) (characters : List Char) :
    component? (Units.ofChars characters) = some (encode keptByComponent characters) := by
  induction characters with
  | nil => rfl
  | cons c rest ih =>
      rw [Units.of_chars_cons, encode_cons]
      rcases Units.of_char_cases c with ⟨small, single, notHigh, notLow⟩ |
        ⟨high, low, beyond, halves, isFirst, isSecond, together⟩
      · have code := Units.to_nat_unit small
        rw [single, List.singleton_append, component?.eq_def]
        by_cases ascii : c.toNat < 0x80
        · simp only [encode_ascii ascii, notHigh, notLow, code, Char.ofNat_toNat, ih,
            percent_char_ascii ascii]
          split <;> rfl
        · have other := keeps.beyond (code ▸ ascii)
          simp only [encode_large keeps ascii, other, notHigh, notLow, code, Char.ofNat_toNat, ih,
            if_false, Bool.false_eq_true, Option.map_some]
      · have other := keeps.beyond (high_beyond isFirst)
        rw [halves, List.cons_append, List.singleton_append, component?.eq_def]
        simp only [encode_large keeps (show ¬c.toNat < 0x80 by omega), other, isFirst, isSecond,
          together, ih, Bool.false_eq_true, if_true, if_false, Option.map_some]

end Encoding

section Decoding

variable {keep : UInt16 → Bool}

/-- Two digits are read as the byte, in whichever way the digits are written. -/
theorem byte_of_digits {write : Nat → UInt16} (digit : Escape.Digit write) (byte : UInt8) :
    byte? (write (byte.toNat / 16)) (write byte.toNat) = some byte := by
  have bound := byte.toNat_lt
  have read : Digits.value? 16
      [Char.ofNat (write (byte.toNat / 16)).toNat, Char.ofNat (write byte.toNat).toNat] =
        some byte.toNat := by
    simp only [Digits.value?, List.isEmpty_cons, Digits.continue?, digit.read, Option.bind_some,
      Bool.false_eq_true, if_false, Option.some.injEq]
    omega
  rw [byte?, read, Option.map_some, UInt8.ofNat_toNat]

theorem byte_of_code (byte : UInt8) :
    byte? (Units.toUpper (Units.hexDigit (byte.toNat / 16)))
      (Units.toUpper (Units.hexDigit byte.toNat)) = some byte :=
  byte_of_digits Escape.digit_upper byte

theorem percent_byte_eq (code : Nat) :
    percentByte code = [percent, Units.toUpper (Units.hexDigit (code / 16)),
      Units.toUpper (Units.hexDigit code)] := rfl

theorem decode_byte (keeps : Keeps keep) (byte : UInt8) (rest : Units) :
    decode? (encodeByte keep byte ++ rest) = (decode? rest).map (byte :: ·) := by
  unfold encodeByte
  split
  · next kept =>
      have small : byte.toUInt16 < 0x80 := UInt16.lt_iff_toNat_lt.mpr (keeps.ascii _ kept)
      rw [List.singleton_append, decode?.eq_def]
      simp only [keeps.apart kept, small, if_true, if_false, UInt8.toUInt8_toUInt16]
  · rw [percent_byte_eq, List.cons_append, decode?.eq_def]
    simp [byte_of_code]

theorem decode_encode (keeps : Keeps keep) (characters : List Char) :
    decode? (encode keep characters) = some (bytes characters) := by
  unfold encode
  induction bytes characters with
  | nil => rfl
  | cons byte rest ih =>
      rw [List.flatMap_cons, decode_byte keeps, ih]
      rfl

end Decoding

section Queries

/-- A text with every occurrence of a part replaced: the pieces between the occurrences stay, and
none of them holds the part. -/
def Replaces (part other text out : Units) : Prop :=
  ∃ first pieces, text = part.intercalate (first :: pieces) ∧
    out = other.intercalate (first :: pieces) ∧ ∀ piece ∈ first :: pieces, ¬part <:+: piece

theorem intercalate_longer (part : Units) (u : UInt16) (first : Units) (pieces : List Units) :
    part.intercalate ((u :: first) :: pieces) = u :: part.intercalate (first :: pieces) := by
  cases pieces with
  | nil => simp only [List.intercalate_singleton]
  | cons second pieces => simp only [List.intercalate_cons_cons, List.cons_append]

theorem prefix_intercalate (part first : Units) (pieces : List Units) :
    first <+: part.intercalate (first :: pieces) := by
  cases pieces with
  | nil => simp only [List.intercalate_singleton, List.prefix_rfl]
  | cons second pieces =>
      rw [List.intercalate_cons_cons, List.append_assoc]
      exact List.prefix_append _ _

variable {part other text out : Units}

theorem Replaces.longer (replaced : Replaces part other text out) {u : UInt16}
    (absent : ¬part <+: u :: text) : Replaces part other (u :: text) (u :: out) := by
  obtain ⟨first, pieces, rfl, rfl, free⟩ := replaced
  refine ⟨u :: first, pieces, (intercalate_longer _ _ _ _).symm,
    (intercalate_longer _ _ _ _).symm, ?_⟩
  rw [List.forall_mem_cons] at free ⊢
  refine ⟨?_, free.2⟩
  intro inside
  rcases List.infix_cons_iff.mp inside with start | later
  · exact absent (start.trans ((List.prefix_cons_inj u).mpr (prefix_intercalate part first pieces)))
  · exact free.1 later

theorem Replaces.here (replaced : Replaces part other text out) (filled : part ≠ []) :
    Replaces part other (part ++ text) (other ++ out) := by
  obtain ⟨first, pieces, rfl, rfl, free⟩ := replaced
  refine ⟨[], first :: pieces, ?_, ?_, ?_⟩
  · rw [List.intercalate_cons_cons, List.nil_append]
  · rw [List.intercalate_cons_cons, List.nil_append]
  · rw [List.forall_mem_cons]
    exact ⟨fun inside => filled (List.infix_nil.mp inside), free⟩

def encodedSpace : Units := units "%20"

/-- Each space that was encoded is replaced, wherever it stands in a text. -/
theorem plus_for_space_replaces (text : Units) :
    Replaces encodedSpace [plus] text (plusForSpace text) := by
  induction text using plusForSpace.induct with
  | case1 => exact ⟨[], [], rfl, rfl, by decide⟩
  | case2 a b c rest same ih =>
      obtain ⟨rfl, rfl, rfl⟩ := same
      rw [plusForSpace, if_pos ⟨rfl, rfl, rfl⟩]
      exact ih.here (by decide)
  | case3 a b c rest apart ih =>
      rw [plusForSpace, if_neg apart]
      apply ih.longer
      rintro ⟨after, same⟩
      cases same
      exact apart ⟨rfl, rfl, rfl⟩
  | case4 u rest short ih =>
      rw [plusForSpace.eq_3 u rest short]
      apply ih.longer
      rintro ⟨after, same⟩
      cases same
      exact short _ _ _ rfl

def queryByte (byte : UInt8) : Units :=
  if byte = 0x20 then [plus] else encodeByte keptByEscaper byte

theorem plus_for_space_apart {u : UInt16} (apart : u ≠ percent) (rest : Units) :
    plusForSpace (u :: rest) = u :: plusForSpace rest := by
  match rest with
  | [] => rfl
  | [_] => rfl
  | b :: c :: rest =>
      rw [plusForSpace, if_neg]
      exact fun same => apart same.1

/-- The space is the only byte whose escape is that of the space. -/
theorem space_digits_iff (byte : UInt8) :
    Units.toUpper (Units.hexDigit (byte.toNat / 16)) = Units.unit '2' ∧
      Units.toUpper (Units.hexDigit byte.toNat) = Units.unit '0' ↔ byte = 0x20 := by
  constructor
  · rintro ⟨high, low⟩
    have read := byte_of_code byte
    have space : byte? (Units.unit '2') (Units.unit '0') = some 0x20 := by decide
    rw [high, low, space, Option.some.injEq] at read
    exact read.symm
  · rintro rfl
    decide

theorem digit_apart (digit : Nat) {c : Char} (other : Units.unit c ∉ units Escape.codeCharacters) :
    Units.toUpper (Units.hexDigit digit) ≠ Units.unit c :=
  fun same => other (same ▸ Escape.digit_upper.character digit)

/-- An escape of another byte is passed over as a whole, so no occurrence is found between two. -/
theorem plus_for_space_byte (byte : UInt8) (rest : Units) :
    plusForSpace (encodeByte keptByEscaper byte ++ rest) = queryByte byte ++ plusForSpace rest := by
  by_cases space : byte = 0x20
  · subst space
    have written : encodeByte keptByEscaper 0x20 = [percent, Units.unit '2', Units.unit '0'] := by
      decide
    rw [written]
    simp [plusForSpace, queryByte, percent, plus]
  · rw [queryByte, if_neg space]
    unfold encodeByte
    split
    · next kept =>
        rw [List.singleton_append, plus_for_space_apart (keeps_escaper.apart kept)]
        rfl
    -- The digits are no percent signs, so after the escape the search goes on behind both of them.
    · have other : Units.unit '%' ∉ units Escape.codeCharacters := by decide
      rw [percent_byte_eq, List.cons_append, List.cons_append, List.cons_append, plusForSpace,
        if_neg]
      · rw [plus_for_space_apart (digit_apart _ other), plus_for_space_apart (digit_apart _ other)]
        rfl
      · rintro ⟨-, digits⟩
        exact space ((space_digits_iff byte).mp digits)

theorem plus_for_space_encode (characters : List Char) :
    plusForSpace (encode keptByEscaper characters) = (bytes characters).flatMap queryByte := by
  unfold encode
  induction bytes characters with
  | nil => rfl
  | cons byte rest ih => rw [List.flatMap_cons, plus_for_space_byte, ih, List.flatMap_cons]

theorem plus_not_mem_encode_byte (byte : UInt8) : plus ∉ encodeByte keptByEscaper byte := by
  unfold encodeByte
  split
  · next kept =>
      intro member
      have marked : keptByEscaper plus = false := by decide
      rw [← List.mem_singleton.mp member, marked] at kept
      cases kept
  · have other : Units.unit '+' ∉ units Escape.codeCharacters := by decide
    have mark : Units.unit '+' ≠ percent := by decide
    simp [percent_byte_eq, mark, plus, (digit_apart _ other).symm]

theorem map_space_for_plus {text : Units} (free : plus ∉ text) : text.map spaceForPlus = text := by
  have kept : ∀ u ∈ text, spaceForPlus u = id u := by
    intro u member
    apply if_neg
    rintro rfl
    exact free member
  rw [List.map_congr_left kept, List.map_id]

theorem decode_form_byte (byte : UInt8) (rest : Units) :
    decodeForm? (queryByte byte ++ rest) = (decodeForm? rest).map (byte :: ·) := by
  by_cases space : byte = 0x20
  · subst space
    have blank : spaceForPlus plus = 0x20 := by decide
    have apart : (0x20 : UInt16) ≠ percent := by decide
    simp only [queryByte, if_true, decodeForm?, List.singleton_append, List.map_cons, blank]
    rw [decode?.eq_def]
    simp only [apart, if_false]
    rfl
  · rw [queryByte, if_neg space, decodeForm?, List.map_append,
      map_space_for_plus (plus_not_mem_encode_byte byte), decode_byte keeps_escaper]
    rfl

theorem decode_form_query (characters : List Char) :
    decodeForm? (plusForSpace (encode keptByEscaper characters)) = some (bytes characters) := by
  rw [plus_for_space_encode]
  induction bytes characters with
  | nil => rfl
  | cons byte rest ih =>
      rw [List.flatMap_cons, decode_form_byte, ih]
      rfl

theorem escape_mark_byte (byte : UInt8) :
    (encodeByte keptByComponent byte).flatMap escapeMark = encodeByte keptByEscaper byte := by
  have all : ∀ code < 256, (encodeByte keptByComponent (UInt8.ofNat code)).flatMap escapeMark =
      encodeByte keptByEscaper (UInt8.ofNat code) := by
    decide +kernel
  have found := all byte.toNat byte.toNat_lt
  rwa [UInt8.ofNat_toNat] at found

theorem escape_mark_encode (characters : List Char) :
    (encode keptByComponent characters).flatMap escapeMark = encode keptByEscaper characters := by
  unfold encode
  induction bytes characters with
  | nil => rfl
  | cons byte rest ih =>
      rw [List.flatMap_cons, List.flatMap_append, escape_mark_byte, ih, List.flatMap_cons]

theorem query_eq (characters : List Char) :
    query? (Units.ofChars characters) =
      some (plusForSpace (escape (Units.ofChars characters))) := by
  rw [query?, component_encodes keeps_component, Option.map_some, escape_mark_encode, escape,
    process_encodes keeps_escaper]

end Queries

/-- Characters that have no meaning of their own anywhere in an address. -/
def unreserved : String :=
  "ABCDEFGHIJKLMNOPQRSTUVWXYZabcdefghijklmnopqrstuvwxyz0123456789-._~"

def capitalDigits : String := "0123456789ABCDEF"

/-- A text of unreserved characters and of escapes with two digits. -/
inductive Escaped : Units → Prop
  | nil : Escaped []
  | unreserved {u : UInt16} {rest : Units} : u ∈ units unreserved → Escaped rest →
      Escaped (u :: rest)
  | escape {high low : UInt16} {rest : Units} : high ∈ units capitalDigits →
      low ∈ units capitalDigits → Escaped rest → Escaped (percent :: high :: low :: rest)

theorem kept_unreserved {u : UInt16} (kept : keptByEscaper u = true) : u ∈ units unreserved := by
  have all : ∀ code < 0x80, keptByEscaper (UInt16.ofNat code) = true →
      UInt16.ofNat code ∈ units unreserved := by
    decide +kernel
  have found := all u.toNat (keeps_escaper.ascii u kept)
  rw [UInt16.ofNat_toNat] at found
  exact found kept

theorem digit_capital (digit : Nat) :
    Units.toUpper (Units.hexDigit digit) ∈ units capitalDigits := by
  have all : ∀ rest < 16, Units.toUpper (Units.hexDigit rest) ∈ units capitalDigits := by decide
  rw [Escape.hex_digit_mod]
  exact all (digit % 16) (Nat.mod_lt _ (by decide))

theorem encode_escaped (characters : List Char) : Escaped (encode keptByEscaper characters) := by
  unfold encode
  induction bytes characters with
  | nil => exact .nil
  | cons byte rest ih =>
      rw [List.flatMap_cons]
      unfold encodeByte
      split
      · next kept => exact .unreserved (kept_unreserved kept) ih
      · rw [percent_byte_eq]
        exact .escape (digit_capital _) (digit_capital _) ih

/-- Both encoders of components return a text for every text that has characters, and both texts
stand for the bytes of the characters in UTF-8. The one holds nothing but unreserved characters and
escapes; the other one, for a query, is the same with each encoded space replaced by a plus sign,
which a form takes for a space. -/
theorem component_encoders_agree {text : Units} {characters : String}
    (read : Units.toString? text = some characters) :
    ∃ out query,
      Builtin.call? "_html_template_urlescaper" [.string text] = some (.ok (.string out)) ∧
      Escaped out ∧ decode? out = some characters.toUTF8.data.toList ∧
      Builtin.call? "urlquery" [.string text] = some (.ok (.string query)) ∧
      Replaces encodedSpace [plus] out query ∧
      decodeForm? query = some characters.toUTF8.data.toList := by
  obtain rfl := Units.units_of_to_string read
  have encoded : escape (units characters) = encode keptByEscaper characters.toList :=
    process_encodes keeps_escaper characters.toList
  have called : Builtin.call? "urlquery" [.string (units characters)] =
      some (Builtin.encoded (query? (units characters))) := rfl
  rw [bytes_utf8]
  refine ⟨escape (units characters), plusForSpace (escape (units characters)), rfl, ?_, ?_, ?_,
    plus_for_space_replaces _, ?_⟩
  · rw [encoded]
    exact encode_escaped _
  · rw [encoded]
    exact decode_encode keeps_escaper _
  · rw [called]
    exact congrArg (fun query => some (Builtin.encoded query)) (query_eq characters.toList)
  · rw [encoded]
    exact decode_form_query _

def mixedQuery : String := "%20 a+b=(1)*\u00e9\u20ac😀"

theorem mixed_query_encoded :
    Units.toString? (units mixedQuery) = some mixedQuery ∧
    ∃ out query,
      Builtin.call? "_html_template_urlescaper" [.string (units mixedQuery)] =
        some (.ok (.string out)) ∧
      Escaped out ∧ decode? out = some mixedQuery.toUTF8.data.toList ∧
      Builtin.call? "urlquery" [.string (units mixedQuery)] = some (.ok (.string query)) ∧
      Replaces encodedSpace [plus] out query ∧
      decodeForm? query = some mixedQuery.toUTF8.data.toList := by
  have read := Units.to_string_units mixedQuery
  exact ⟨read, component_encoders_agree read⟩

example : (query? (units "%20 a+b")) = some (units "%2520+a%2Bb") := by
  decide +kernel

end TemplateScript.Url
