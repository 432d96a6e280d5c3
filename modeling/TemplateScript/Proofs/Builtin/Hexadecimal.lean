import TemplateScript.Proofs.Builtin.Address
import TemplateScript.Proofs.Builtin.Directives

/-!
Texts in hexadecimal.

A text is first encoded as a component of an address, and then each escape loses its percent sign
and every other unit is written by its code. The two steps stay aligned: whatever the encoder writes
for a byte, a unit that it keeps or an escape, is taken as a whole and becomes the two digits of
that byte. So the result is the bytes of the text in UTF-8, and they can be read back from it.
-/
namespace TemplateScript.Url

/-- A byte in two hexadecimal digits, in small letters. -/
def byteCode (byte : UInt8) : List Char :=
  [Nat.digitChar (byte.toNat / 16), Nat.digitChar (byte.toNat % 16)]

def decodeHex? : Units → Option (List UInt8)
  | [] => some []
  | high :: low :: rest =>
      (byte? high low).bind fun byte => (decodeHex? rest).map (byte :: ·)
  | [_] => none

def textOfHex? (text : Units) : Option String :=
  (decodeHex? text).bind fun content => String.fromUTF8? ⟨content.toArray⟩

section Alignment

theorem unescape_hex_apart {u : UInt16} (apart : u ≠ percent) (rest : Units) :
    unescapeHex (u :: rest) = Units.hexPair u.toNat ++ unescapeHex rest := by
  match rest with
  | [] => rfl
  | [_] => rfl
  | b :: c :: rest =>
      rw [unescapeHex, if_neg]
      exact fun same => apart same.1

/-- Digits in capitals are digits of an escape, and in small letters they are those of the code. -/
theorem escape_digit (digit : Nat) :
    isUpperHex (Units.toUpper (Units.hexDigit digit)) = true ∧
      Units.toLower (Units.toUpper (Units.hexDigit digit)) = Units.hexDigit digit := by
  have all : ∀ rest < 16, isUpperHex (Units.toUpper (Units.hexDigit rest)) = true ∧
      Units.toLower (Units.toUpper (Units.hexDigit rest)) = Units.hexDigit rest := by decide
  rw [Escape.hex_digit_mod]
  exact all (digit % 16) (Nat.mod_lt _ (by decide))

theorem unescape_hex_escape (code : Nat) (rest : Units) :
    unescapeHex (percentByte code ++ rest) = Units.hexPair code ++ unescapeHex rest := by
  obtain ⟨highDigit, high⟩ := escape_digit (code / 16)
  obtain ⟨lowDigit, low⟩ := escape_digit code
  rw [percent_byte_eq, List.cons_append, List.cons_append, List.cons_append, unescapeHex,
    if_pos ⟨rfl, highDigit, lowDigit⟩, high, low]
  rfl

/-- Whatever is written for a byte becomes its two digits, and nothing of the rest is touched. -/
theorem unescape_hex_byte {keep : UInt16 → Bool} (keeps : Keeps keep) (byte : UInt8)
    (rest : Units) :
    unescapeHex (encodeByte keep byte ++ rest) =
      Units.hexPair byte.toNat ++ unescapeHex rest := by
  unfold encodeByte
  split
  · next kept =>
      rw [List.singleton_append, unescape_hex_apart (keeps.apart kept), UInt8.toNat_toUInt16]
  · exact unescape_hex_escape byte.toNat rest

theorem unescape_hex_encode {keep : UInt16 → Bool} (keeps : Keeps keep)
    (characters : List Char) :
    unescapeHex (encode keep characters) =
      (bytes characters).flatMap fun byte => Units.hexPair byte.toNat := by
  unfold encode
  induction bytes characters with
  | nil => rfl
  | cons byte rest ih => rw [List.flatMap_cons, unescape_hex_byte keeps, ih, List.flatMap_cons]

end Alignment

section Digits

theorem hex_pair_byte (byte : UInt8) :
    Units.hexPair byte.toNat = Units.ofChars (byteCode byte) := by
  have single : ∀ rest < 16,
      Units.ofChar (Nat.digitChar rest) = [Units.unit (Nat.digitChar rest)] := by
    decide
  have high : byte.toNat / 16 < 16 := by
    have bound := byte.toNat_lt
    omega
  have low : byte.toNat % 16 < 16 := Nat.mod_lt _ (by decide)
  rw [byteCode, Units.of_chars_cons, Units.of_chars_cons, single _ high, single _ low,
    Units.hexPair, Units.hexDigit, Units.hexDigit, Nat.mod_eq_of_lt high]
  rfl

theorem decode_hex_codes (content : List UInt8) :
    decodeHex? (content.flatMap fun byte => Units.hexPair byte.toNat) = some content := by
  induction content with
  | nil => rfl
  | cons byte rest ih =>
      rw [List.flatMap_cons, Units.hexPair, List.cons_append, List.cons_append, List.nil_append,
        decodeHex?, byte_of_digits Escape.digit_lower, ih]
      rfl

theorem length_codes (content : List UInt8) :
    (content.flatMap fun byte => Units.hexPair byte.toNat).length = 2 * content.length := by
  simp [List.length_flatMap, Units.hexPair, Nat.mul_comm]

theorem from_utf8_bytes (text : String) : String.fromUTF8? ⟨text.toUTF8.data⟩ = some text :=
  dif_pos text.isValidUTF8

end Digits

section Printing

theorem hex_bytes_eq (characters : String) :
    hexBytes? (units characters) =
      some (characters.toUTF8.data.toList.flatMap fun byte => Units.hexPair byte.toNat) := by
  rw [hexBytes?, units, component_encodes keeps_component, Option.map_some,
    unescape_hex_encode keeps_component, bytes_utf8]

/-- Without a width there is nothing to fill. -/
theorem pad_unbounded {d : Printf.Directive} (free : d.width = none) (text : Units) :
    Printf.pad d text = .ok [.text text] := by
  simp [Printf.pad, free]

theorem printf_hexadecimal {d : Printf.Spelling} (verb : d.verb = Units.unit 'x')
    (free : d.width = []) {text out : Units} (hex : hexBytes? text = some out) :
    printf [.string d.text, .string text] = Printf.bounded out := by
  have takes : d.takes = true := by
    rw [Printf.Spelling.takes, verb]
    decide
  have noWidth : d.directive.width = none := by
    simp [Printf.Spelling.directive, Printf.Spelling.number, free, Printf.number?]
  have letter : Char.ofNat d.directive.verb.toNat = 'x' := by
    rw [Printf.Spelling.directive_verb, verb]
    decide
  have formatted : Printf.format d.directive (.string text) = .ok [.text out] := by
    unfold Printf.format
    rw [letter]
    simp only [Printf.hex, Value.print, hex, ok_bind, pad_unbounded noWidth]
  rw [Printf.Spelling.printf_alone takes, formatted]
  simp [ok_bind, Printf.toUnits, Printf.Segment.toUnits]

end Printing

/-- A text that has characters is written in base sixteen by the two-digit codes of its bytes in
UTF-8. There are twice as many units as bytes, and the text can be read back from them. The verb for
base sixteen prints the same where there is no width to fill, unless no text can be so long. -/
theorem hexadecimal_of_utf8 {text : Units} {characters : String}
    (read : Units.toString? text = some characters) :
    ∃ out, hexBytes? text = some out ∧
      out = Units.ofChars (characters.toUTF8.data.toList.flatMap byteCode) ∧
      out.length = 2 * characters.utf8ByteSize ∧
      textOfHex? out = some characters ∧
      ∀ d : Printf.Spelling, d.verb = Units.unit 'x' → d.width = [] →
        printf [.string d.text, .string text] = Printf.bounded out := by
  obtain rfl := Units.units_of_to_string read
  have written := hex_bytes_eq characters
  refine ⟨_, written, ?_, ?_, ?_, fun d verb free => printf_hexadecimal verb free written⟩
  · rw [Units.ofChars, List.flatMap_assoc]
    exact List.flatMap_congr fun byte _ => hex_pair_byte byte
  · rw [length_codes]
    rfl
  · rw [textOfHex?, decode_hex_codes, Option.bind_some]
    exact from_utf8_bytes characters

theorem mixed_query_in_hexadecimal :
    Units.toString? (units mixedQuery) = some mixedQuery ∧
    ∃ out, hexBytes? (units mixedQuery) = some out ∧
      out = Units.ofChars (mixedQuery.toUTF8.data.toList.flatMap byteCode) ∧
      out.length = 2 * mixedQuery.utf8ByteSize ∧
      textOfHex? out = some mixedQuery ∧
      ∀ d : Printf.Spelling, d.verb = Units.unit 'x' → d.width = [] →
        printf [.string d.text, .string (units mixedQuery)] = Printf.bounded out := by
  have read := Units.to_string_units mixedQuery
  exact ⟨read, hexadecimal_of_utf8 read⟩

example : hexBytes? (units "%a\u00e9") = some (units "2561c3a9") := by
  decide +kernel

end TemplateScript.Url
