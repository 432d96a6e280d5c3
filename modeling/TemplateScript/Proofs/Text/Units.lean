import Mathlib.Data.List.TakeWhile
import TemplateScript.Text.Units

/-!
Characters written as units and read back.

A character below U+10000 is never half of a pair, and the two halves of any other character are a
high one and a low one. So the units of a text tell where its characters begin, whatever follows.
-/
namespace TemplateScript

/-- A reader that takes items as long as they are of a kind takes just the run. -/
theorem run_exact {α : Type} {kind : α → Bool} {run rest : List α}
    (all : ∀ item ∈ run, kind item = true) (stop : ∀ item ∈ rest.head?, kind item = false) :
    (run ++ rest).takeWhile kind = run ∧ (run ++ rest).dropWhile kind = rest := by
  rw [List.takeWhile_append_of_pos all, List.dropWhile_append_of_pos all]
  cases rest with
  | nil => simp
  | cons item others => simp [stop item rfl]

namespace Units

/-- What is said of every unit of a text is checked on the units of the text; the instance for all
units that there are would try each of them. -/
instance (priority := 2000) decidableForallMem (property : UInt16 → Prop) [DecidablePred property]
    (text : Units) : Decidable (∀ u ∈ text, property u) :=
  List.decidableBAll property text

/-- A character is no surrogate. -/
theorem char_to_nat_bounds (c : Char) :
    c.toNat < 0xd800 ∨ (0xdfff < c.toNat ∧ c.toNat < 0x110000) := by
  have valid := c.valid
  simp only [UInt32.isValidChar, Nat.isValidChar] at valid
  exact valid

theorem to_nat_unit {c : Char} (small : c.toNat < 0x10000) : (unit c).toNat = c.toNat := by
  rw [unit, UInt16.toNat_ofNat']
  exact Nat.mod_eq_of_lt small

/-- A character is one unit that is no surrogate, or a high half and a low one. -/
theorem of_char_cases (c : Char) :
    (c.toNat < 0x10000 ∧ ofChar c = [unit c] ∧ isHigh (unit c) = false ∧
      isLow (unit c) = false) ∨
    ∃ high low, ¬c.toNat < 0x10000 ∧ ofChar c = [high, low] ∧ isHigh high = true ∧
      isLow low = true ∧ Surrogate.pair high.toNat low.toNat = c := by
  have bounds := char_to_nat_bounds c
  by_cases small : c.toNat < 0x10000
  · left
    have code := to_nat_unit small
    refine ⟨small, if_pos small, ?_, ?_⟩
    · simp only [isHigh, Surrogate.isHigh, code, Bool.and_eq_false_iff, decide_eq_false_iff_not]
      omega
    · simp only [isLow, Surrogate.isLow, code, Bool.and_eq_false_iff, decide_eq_false_iff_not]
      omega
  · right
    have high : (UInt16.ofNat (0xd800 + (c.toNat - 0x10000) / 1024)).toNat =
        0xd800 + (c.toNat - 0x10000) / 1024 := by
      rw [UInt16.toNat_ofNat']
      omega
    have low : (UInt16.ofNat (0xdc00 + (c.toNat - 0x10000) % 1024)).toNat =
        0xdc00 + (c.toNat - 0x10000) % 1024 := by
      rw [UInt16.toNat_ofNat']
      omega
    refine ⟨_, _, small, if_neg small, ?_, ?_, ?_⟩
    · simp only [isHigh, Surrogate.isHigh, high, Bool.and_eq_true, decide_eq_true_eq]
      omega
    · simp only [isLow, Surrogate.isLow, low, Bool.and_eq_true, decide_eq_true_eq]
      omega
    · have code : 0x10000 + (0xd800 + (c.toNat - 0x10000) / 1024 - 0xd800) * 1024 +
          (0xdc00 + (c.toNat - 0x10000) % 1024 - 0xdc00) = c.toNat := by
        omega
      rw [high, low, Surrogate.pair, code, Char.ofNat_toNat]

/-- A character is read from its units, whatever follows. -/
theorem to_chars_of_char (c : Char) (rest : Units) :
    toChars? (ofChar c ++ rest) = (toChars? rest).map (c :: ·) := by
  rcases of_char_cases c with ⟨small, single, notHigh, notLow⟩ |
    ⟨high, low, _, halves, isFirst, isSecond, together⟩
  · rw [single, List.singleton_append, toChars?.eq_def]
    simp only [notHigh, notLow, to_nat_unit small, Char.ofNat_toNat, Bool.false_eq_true, if_false]
  · rw [halves, List.cons_append, List.singleton_append, toChars?.eq_def]
    simp only [isFirst, isSecond, together, if_true]

theorem of_chars_cons (c : Char) (rest : List Char) :
    ofChars (c :: rest) = ofChar c ++ ofChars rest :=
  List.flatMap_cons

theorem of_chars_append (first second : List Char) :
    ofChars (first ++ second) = ofChars first ++ ofChars second :=
  List.flatMap_append

theorem to_chars_of_chars (text : List Char) : toChars? (ofChars text) = some text := by
  induction text with
  | nil => rfl
  | cons c rest ih =>
      rw [of_chars_cons, to_chars_of_char, ih]
      rfl

@[simp] theorem to_string_units (text : String) : toString? (units text) = some text := by
  simp [toString?, units, to_chars_of_chars]

theorem to_nat_of_nat {code : Nat} (valid : code.isValidChar) : (Char.ofNat code).toNat = code := by
  rw [Char.ofNat, dif_pos valid]
  rfl

theorem of_char_single {u : UInt16} (notHigh : ¬isHigh u = true) (notLow : ¬isLow u = true) :
    ofChar (Char.ofNat u.toNat) = [u] := by
  have bound := u.toNat_lt
  simp only [isHigh, isLow, Surrogate.isHigh, Surrogate.isLow, Bool.and_eq_true,
    decide_eq_true_eq] at notHigh notLow
  have code : (Char.ofNat u.toNat).toNat = u.toNat := by
    apply to_nat_of_nat
    simp only [Nat.isValidChar]
    omega
  rw [ofChar, if_pos (by omega), unit, code, UInt16.ofNat_toNat]

theorem of_char_paired {high low : UInt16} (isFirst : isHigh high = true)
    (isSecond : isLow low = true) : ofChar (Surrogate.pair high.toNat low.toNat) = [high, low] := by
  simp only [isHigh, isLow, Surrogate.isHigh, Surrogate.isLow, Bool.and_eq_true,
    decide_eq_true_eq] at isFirst isSecond
  have code : (Surrogate.pair high.toNat low.toNat).toNat =
      0x10000 + (high.toNat - 0xd800) * 1024 + (low.toNat - 0xdc00) := by
    apply to_nat_of_nat
    simp only [Nat.isValidChar]
    omega
  have first : 0xd800 + (0x10000 + (high.toNat - 0xd800) * 1024 + (low.toNat - 0xdc00) - 0x10000) /
      1024 = high.toNat := by
    omega
  have second : 0xdc00 + (0x10000 + (high.toNat - 0xd800) * 1024 + (low.toNat - 0xdc00) - 0x10000) %
      1024 = low.toNat := by
    omega
  rw [ofChar, if_neg (by omega), code]
  simp only [first, second, UInt16.ofNat_toNat]

/-- A text that has characters is written by them. -/
theorem of_chars_of_to_chars {text : Units} {characters : List Char}
    (read : toChars? text = some characters) : ofChars characters = text := by
  induction text using toChars?.induct generalizing characters with
  | case1 =>
      cases read
      rfl
  | case2 u high => simp [toChars?, high] at read
  | case3 u high low rest second ih =>
      simp only [toChars?, high, second, if_true] at read
      obtain ⟨others, readOthers, rfl⟩ := Option.map_eq_some_iff.mp read
      rw [of_chars_cons, of_char_paired high second, ih readOthers]
      rfl
  | case4 u high low rest other => simp [toChars?, high, other] at read
  | case5 u rest other low => simp [toChars?.eq_def, other, low] at read
  | case6 u rest notHigh notLow ih =>
      rw [toChars?.eq_def] at read
      simp only [notHigh, notLow] at read
      obtain ⟨others, readOthers, rfl⟩ := Option.map_eq_some_iff.mp read
      rw [of_chars_cons, of_char_single notHigh notLow, ih readOthers]
      rfl

/-- A text without half of a surrogate pair is that of its characters. -/
theorem units_of_to_string {text : Units} {characters : String}
    (read : toString? text = some characters) : units characters = text := by
  obtain ⟨found, readChars, rfl⟩ := Option.map_eq_some_iff.mp read
  rw [units, String.toList_ofList, of_chars_of_to_chars readChars]

end Units

end TemplateScript
