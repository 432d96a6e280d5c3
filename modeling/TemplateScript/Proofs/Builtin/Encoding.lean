import Mathlib.Data.List.Induction
import TemplateScript.Proofs.Builtin.Address

/-!
Addresses from any text, with halves of surrogate pairs that stand alone.

What is written lies in the alphabet of addresses, which normalization leaves as it is; so a second
normalization changes nothing. A text can be encoded in parts, unless a part ends in a high half
that has not been paired yet: such a half takes the next unit along whatever it is, and a unit that
is no low half is lost.
-/
namespace TemplateScript.Url

def taken (high next : UInt16) : Units :=
  if Units.isLow next then percentChar (Surrogate.pair high.toNat next.toNat) else replacement

section Steps

variable {keep : UInt16 → Bool}

theorem process_cons {u : UInt16} (other : Units.isHigh u = false) (rest : Units) :
    process keep (u :: rest) = process keep [u] ++ process keep rest := by
  rw [process.eq_def, process.eq_def keep [u]]
  simp only [other, process, Bool.false_eq_true, if_false]
  split
  · rfl
  · split
    · simp only [List.append_nil]
    · split <;> simp only [List.append_nil]

variable (ascii : ∀ u, keep u = true → u.toNat < 0x80)
include ascii

theorem half_not_kept {u : UInt16} (half : isHalf u = true) :
    keep u = false ∧ ¬u < 0x80 :=
  ⟨Bool.eq_false_iff.mpr fun kept => half_beyond half (ascii u kept),
    fun less => half_beyond half (UInt16.lt_iff_toNat_lt.mp less)⟩

/-- A high half is written together with the unit behind it. -/
theorem process_high {u : UInt16} (high : Units.isHigh u = true) (next : UInt16) (rest : Units) :
    process keep (u :: next :: rest) = taken u next ++ process keep rest := by
  obtain ⟨other, large⟩ := half_not_kept ascii (u := u) (by simp only [isHalf, high, Bool.true_or])
  rw [process.eq_def]
  simp only [other, large, high, Bool.false_eq_true, if_false, if_true, taken]

theorem process_half {u : UInt16} (half : isHalf u = true) : process keep [u] = replacement := by
  obtain ⟨other, large⟩ := half_not_kept ascii half
  rw [process.eq_def]
  simp only [other, large, Bool.false_eq_true, if_false]
  split
  · rfl
  · next notHigh =>
      have low : Units.isLow u = true := by simpa [isHalf, notHigh] using half
      simp only [low, if_true, process, List.append_nil]

end Steps

section Alphabet

def escapeUnits : Units := percent :: units capitalDigits

variable {keep : UInt16 → Bool}

theorem percent_byte_units {code : Nat} {u : UInt16} (member : u ∈ percentByte code) :
    u ∈ escapeUnits := by
  rw [percent_byte_eq] at member
  simp only [List.mem_cons, List.not_mem_nil, or_false] at member
  rcases member with rfl | rfl | rfl
  · exact List.mem_cons_self
  · exact List.mem_cons_of_mem _ (digit_capital _)
  · exact List.mem_cons_of_mem _ (digit_capital _)

theorem percent_char_units {c : Char} {u : UInt16} (member : u ∈ percentChar c) :
    u ∈ escapeUnits := by
  obtain ⟨byte, _, inside⟩ := List.mem_flatMap.mp member
  exact percent_byte_units inside

theorem replacement_units : ∀ u ∈ replacement, u ∈ escapeUnits := by
  decide +kernel

theorem taken_units {high next u : UInt16} (member : u ∈ taken high next) : u ∈ escapeUnits := by
  unfold taken at member
  split at member
  · exact percent_char_units member
  · exact replacement_units u member

theorem process_single_units {v u : UInt16} (member : u ∈ process keep [v]) :
    keep u = true ∨ u ∈ escapeUnits := by
  rw [process.eq_def] at member
  simp only [process, List.append_nil] at member
  split at member
  · next kept =>
      rw [List.mem_singleton.mp member]
      exact .inl kept
  · right
    split at member
    · exact percent_byte_units member
    · split at member
      · exact replacement_units u member
      · split at member
        · exact replacement_units u member
        · exact percent_char_units member

/-- Whatever the text, only units that are kept and units of escapes are written. -/
theorem process_units (ascii : ∀ u, keep u = true → u.toNat < 0x80) {text : Units} {u : UInt16}
    (member : u ∈ process keep text) : keep u = true ∨ u ∈ escapeUnits := by
  induction text using List.twoStepInduction with
  | nil => cases member
  | singleton v => exact process_single_units member
  | cons_cons v next rest behind tail =>
      cases high : Units.isHigh v with
      | true =>
          rw [process_high ascii high] at member
          rcases List.mem_append.mp member with here | later
          · exact .inr (taken_units here)
          · exact behind later
      | false =>
          rw [process_cons high] at member
          rcases List.mem_append.mp member with here | later
          · exact process_single_units here
          · exact tail next later

theorem process_kept {text : Units} (kept : ∀ u ∈ text, keep u = true) :
    process keep text = text := by
  induction text with
  | nil => rfl
  | cons u rest ih =>
      obtain ⟨first, others⟩ := List.forall_mem_cons.mp kept
      rw [process.eq_def]
      simp only [first, if_true, ih others]

def addressCharacters : String := unreserved ++ "!#$&*+,/:;=?@[]%"

theorem normalizer_ascii (u : UInt16) (kept : keptByNormalizer u = true) : u.toNat < 0x80 := by
  rcases Bool.or_eq_true_iff.mp kept with unreserved | mark
  · exact keeps_escaper.ascii u unreserved
  · exact is_one_of_ascii (by decide) mark

theorem normalizer_iff (u : UInt16) :
    keptByNormalizer u = true ↔ u ∈ units addressCharacters := by
  constructor
  · intro kept
    have all : ∀ code < 0x80, keptByNormalizer (UInt16.ofNat code) = true →
        UInt16.ofNat code ∈ units addressCharacters := by
      decide +kernel
    have found := all u.toNat (normalizer_ascii u kept)
    rw [UInt16.ofNat_toNat] at found
    exact found kept
  · have all : ∀ u ∈ units addressCharacters, keptByNormalizer u = true := by decide +kernel
    exact all u

theorem escapes_in_address : ∀ u ∈ escapeUnits, u ∈ units addressCharacters := by
  decide +kernel

theorem normalize_units {text : Units} {u : UInt16} (member : u ∈ normalize text) :
    u ∈ units addressCharacters := by
  rcases process_units normalizer_ascii member with kept | escape
  · exact (normalizer_iff u).mp kept
  · exact escapes_in_address u escape

theorem escape_units {text : Units} {u : UInt16} (member : u ∈ escape text) :
    u ∈ units addressCharacters := by
  rcases process_units keeps_escaper.ascii member with kept | escape
  · exact (normalizer_iff u).mp (by rw [keptByNormalizer, kept, Bool.true_or])
  · exact escapes_in_address u escape

/-- Normalization changes a text exactly where something lies outside of the alphabet. -/
theorem normalize_eq_self_iff (text : Units) :
    normalize text = text ↔ ∀ u ∈ text, u ∈ units addressCharacters := by
  constructor
  · intro same u member
    rw [← same] at member
    exact normalize_units member
  · intro within
    exact process_kept fun u member => (normalizer_iff u).mpr (within u member)

/-- What normalization and escaping give lies in the alphabet of addresses, and normalization leaves
just the texts of that alphabet as they are: a normal text, and an escaped one too. -/
theorem normalizing_settles (text : Units) :
    ∃ out escaped,
      Builtin.call? "_html_template_urlnormalizer" [.string text] = some (.ok (.string out)) ∧
      (∀ u ∈ out, u ∈ units addressCharacters) ∧
      Builtin.call? "_html_template_urlnormalizer" [.string out] = some (.ok (.string out)) ∧
      Builtin.call? "_html_template_urlescaper" [.string text] = some (.ok (.string escaped)) ∧
      Builtin.call? "_html_template_urlnormalizer" [.string escaped] =
        some (.ok (.string escaped)) ∧
      (out = text ↔ ∀ u ∈ text, u ∈ units addressCharacters) := by
  have called (input : Units) :
      Builtin.call? "_html_template_urlnormalizer" [.string input] =
        some (.ok (.string (normalize input))) := rfl
  have again : normalize (normalize text) = normalize text :=
    (normalize_eq_self_iff _).mpr fun _ member => normalize_units member
  have settled : normalize (escape text) = escape text :=
    (normalize_eq_self_iff _).mpr fun _ member => escape_units member
  refine ⟨normalize text, escape text, called text, fun _ member => normalize_units member, ?_, rfl,
    ?_, normalize_eq_self_iff text⟩
  · rw [called, again]
  · rw [called, settled]

example : normalize (units "a b%20é") = units "a%20b%20%C3%A9" := by
  decide +kernel

end Alphabet

section Splitting

/-- Whether a text ends in a high half that waits for the unit behind it. A waiting half takes any
unit, also another high half, which then does not wait. -/
def waits (text : Units) : Bool :=
  text.foldl (fun waiting u => !waiting && Units.isHigh u) false

/-- Whether the parts of a text meet inside of a surrogate pair. -/
def cutsPair (first second : Units) : Bool :=
  first.getLast?.any Units.isHigh && second.head?.any Units.isLow

theorem waits_cons {u : UInt16} (other : Units.isHigh u = false) (rest : Units) :
    waits (u :: rest) = waits rest := by
  simp only [waits, List.foldl_cons, other, Bool.and_false]

theorem waits_high {u : UInt16} (high : Units.isHigh u = true) (next : UInt16) (rest : Units) :
    waits (u :: next :: rest) = waits rest := by
  simp only [waits, List.foldl_cons, high, Bool.not_false, Bool.not_true, Bool.and_true,
    Bool.false_and]

theorem last_high_of_waits {text : Units} (waiting : waits text = true) :
    text.getLast?.any Units.isHigh = true := by
  rcases List.eq_nil_or_concat text with rfl | ⟨front, last, rfl⟩
  · cases waiting
  · simp only [waits, List.concat_eq_append, List.foldl_append, List.foldl_cons, List.foldl_nil,
      Bool.and_eq_true] at waiting
    simpa using waiting.2

variable {keep : UInt16 → Bool}

/-- Where the parts of a text do not meet inside of a pair, the second part is encoded by itself,
but for its first unit if the first part waits for it. -/
theorem process_append (ascii : ∀ u, keep u = true → u.toNat < 0x80) {first second : Units}
    (whole : cutsPair first second = false) :
    process keep (first ++ second) =
      process keep first ++ process keep (if waits first then second.tail else second) := by
  -- the last unit of a part says nothing about the shorter parts, but whether a part waits does
  have unpaired : waits first = true → second.head?.any Units.isLow = false := by
    intro waiting
    simpa [cutsPair, last_high_of_waits waiting] using whole
  clear whole
  induction first using List.twoStepInduction with
  | nil => rfl
  | singleton u =>
      cases high : Units.isHigh u with
      | true =>
          have waiting : waits [u] = true := by simp [waits, high]
          have alone : process keep [u] = replacement :=
            process_half ascii (by simp only [isHalf, high, Bool.true_or])
          cases second with
          | nil => simp [process, waiting]
          | cons next rest =>
              have lost : Units.isLow next = false := by simpa using unpaired waiting
              rw [List.singleton_append, process_high ascii high, alone, waiting]
              simp only [taken, lost, Bool.false_eq_true, if_false, if_true, List.tail_cons]
      | false =>
          rw [List.singleton_append, process_cons high, waits_cons high]
          rfl
  | cons_cons u next rest behind tail =>
      cases high : Units.isHigh u with
      | true =>
          rw [waits_high high] at unpaired ⊢
          rw [List.cons_append, List.cons_append, process_high ascii high, behind unpaired,
            process_high ascii high, List.append_assoc]
      | false =>
          rw [waits_cons high] at unpaired ⊢
          rw [List.cons_append, process_cons high, tail next unpaired,
            process_cons high (next :: rest), List.append_assoc]

/-- Half of a pair that stands alone is replaced. Two parts of a text that do not meet inside of a
pair are encoded each by itself, unless the first one ends in a high half that waits for the next
unit: then that unit is left out, and this shows wherever the unit would have counted. -/
theorem encoding_splits {encoder : Units → Units} (mode : encoder ∈ [escape, normalize])
    {first second : Units} (whole : cutsPair first second = false) :
    (∀ u, isHalf u = true → encoder [u] = replacement) ∧
    encoder (first ++ second) =
      encoder first ++ encoder (if waits first then second.tail else second) ∧
    (encoder (first ++ second) = encoder first ++ encoder second ↔
      (waits first = true → encoder second.tail = encoder second)) := by
  obtain ⟨keep, ascii, rfl⟩ : ∃ keep, (∀ u, keep u = true → u.toNat < 0x80) ∧
      encoder = process keep := by
    simp only [List.mem_cons, List.not_mem_nil, or_false] at mode
    rcases mode with rfl | rfl
    · exact ⟨keptByEscaper, keeps_escaper.ascii, rfl⟩
    · exact ⟨keptByNormalizer, normalizer_ascii, rfl⟩
  have split := process_append ascii whole
  refine ⟨fun u half => process_half ascii half, split, ?_⟩
  rw [split, List.append_cancel_left_eq]
  cases waits first with
  | true => simp
  | false => simp

def brokenText : Units := [0xd83d, 0xde00, 0xdc00, 0xd800, 0xd801]

theorem broken_text_splits :
    escape ∈ [escape, normalize] ∧ cutsPair brokenText (units "\u00e9?") = false ∧
    waits brokenText = false ∧
    escape (brokenText ++ units "\u00e9?") = escape brokenText ++ escape (units "\u00e9?") := by
  have whole : cutsPair brokenText (units "\u00e9?") = false := by decide
  have settled : waits brokenText = false := by decide
  obtain ⟨_, _, exact⟩ := encoding_splits (List.mem_cons_self : escape ∈ [escape, normalize]) whole
  refine ⟨List.mem_cons_self, whole, settled, exact.mpr fun waiting => ?_⟩
  rw [settled] at waiting
  cases waiting

/-- The letter behind a high half that stands alone is lost. -/
theorem lone_half_takes_letter :
    cutsPair [0xd800] (units "a") = false ∧
    escape ([0xd800] ++ units "a") = replacement ∧
    escape ([0xd800] ++ units "a") ≠ escape [0xd800] ++ escape (units "a") ∧
    normalize ([0xd800] ++ units "a") ≠ normalize [0xd800] ++ normalize (units "a") := by
  decide +kernel

end Splitting

end TemplateScript.Url
