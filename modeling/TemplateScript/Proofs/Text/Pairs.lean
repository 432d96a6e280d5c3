import TemplateScript.Proofs.Text.Units

/-!
Texts without half of a pair.

Such texts are those of strings of characters. Where the second text does not start inside of a
pair, two texts together have all their pairs exactly when each of them has. Cutting a text leaves
half of a pair behind exactly when the cut is made between a high half and a low one.
-/
namespace TemplateScript.Units

/-- Every surrogate has its other half. -/
def paired (text : Units) : Bool :=
  (toChars? text).isSome

def startsLow (text : Units) : Bool :=
  text.head?.any isLow

def cutsPair (count : Nat) (text : Units) : Bool :=
  (text.take count).getLast?.any isHigh && startsLow (text.drop count)

theorem paired_iff {text : Units} :
    paired text = true ↔ ∃ characters : String, units characters = text := by
  constructor
  · intro whole
    obtain ⟨characters, read⟩ := Option.isSome_iff_exists.mp whole
    exact ⟨String.ofList characters, by simpa [units] using of_chars_of_to_chars read⟩
  · intro given
    rcases given with ⟨characters, rfl⟩
    simp [paired, units, to_chars_of_chars]

theorem paired_units (characters : String) : paired (units characters) = true :=
  paired_iff.mpr ⟨characters, rfl⟩

/-- A unit that is no surrogate stands for itself. -/
def plain (u : UInt16) : Bool :=
  !isHigh u && !isLow u

theorem paired_cons {u : UInt16} (single : plain u = true) (rest : Units) :
    paired (u :: rest) = paired rest := by
  simp only [plain, Bool.and_eq_true, Bool.not_eq_true'] at single
  simp [paired, toChars?.eq_def (u :: rest), single]

theorem paired_pair {high low : UInt16} (first : isHigh high = true) (second : isLow low = true)
    (rest : Units) : paired (high :: low :: rest) = paired rest := by
  simp [paired, toChars?.eq_def (high :: low :: rest), first, second]

/-- A high half is in a pair with the unit behind it or in none. -/
theorem paired_high {high : UInt16} (first : isHigh high = true) {rest : Units}
    (apart : startsLow rest = false) : paired (high :: rest) = false := by
  cases rest with
  | nil => simp [paired, toChars?, first]
  | cons next rest =>
      have other : isLow next = false := by simpa [startsLow] using apart
      simp [paired, toChars?.eq_def (high :: next :: rest), first, other]

theorem paired_high_alone {high : UInt16} (first : isHigh high = true) : paired [high] = false :=
  paired_high first rfl

theorem paired_low {low : UInt16} (other : isHigh low = false) (second : isLow low = true)
    (rest : Units) : paired (low :: rest) = false := by
  simp [paired, toChars?.eq_def (low :: rest), other, second]

theorem not_low_of_high {u : UInt16} (high : isHigh u = true) : isLow u = false := by
  simp only [isHigh, isLow, Surrogate.isHigh, Surrogate.isLow, Bool.and_eq_true, decide_eq_true_eq,
    Bool.and_eq_false_iff, decide_eq_false_iff_not] at high ⊢
  omega

/-- A text without half of a pair does not start inside of one. -/
theorem not_starts_low_of_paired {text : Units} (whole : paired text = true) :
    startsLow text = false := by
  cases text with
  | nil => rfl
  | cons u rest =>
      cases low : isLow u with
      | false => simp [startsLow, low]
      | true =>
          cases high : isHigh u with
          | false => simp [paired_low high low] at whole
          | true => simp [not_low_of_high high] at low

theorem paired_append {front back : Units} (apart : startsLow back = false) :
    paired (front ++ back) = (paired front && paired back) := by
  induction front using toChars?.induct with
  | case1 => rfl
  | case2 u high => simp [paired_high high apart, paired_high_alone high]
  | case3 u high low rest second ih =>
      simp only [List.cons_append, paired_pair high second, ih]
  | case4 u high low rest other =>
      have between : ∀ more, startsLow (low :: more) = false := by simpa [startsLow] using other
      simp only [List.cons_append, paired_high high (between _), Bool.false_and]
  | case5 u rest other low =>
      simp only [List.cons_append, paired_low (by simpa using other) low, Bool.false_and]
  | case6 u rest notHigh notLow ih =>
      have single : plain u = true := by simp [plain, notHigh, notLow]
      simp only [List.cons_append, paired_cons single, ih]

theorem paired_append_plain {front : Units} (all : ∀ u ∈ front, plain u = true) (back : Units) :
    paired (front ++ back) = paired back := by
  induction front with
  | nil => rfl
  | cons u rest ih =>
      obtain ⟨first, others⟩ := List.forall_mem_cons.mp all
      rw [List.cons_append, paired_cons first, ih others]

theorem paired_of_plain {text : Units} (all : ∀ u ∈ text, plain u = true) :
    paired text = true := by
  rw [← text.append_nil, paired_append_plain all]
  rfl

theorem not_starts_low_of_plain {text : Units} (all : ∀ u ∈ text, plain u = true) :
    startsLow text = false :=
  not_starts_low_of_paired (paired_of_plain all)

/-- A text without half of a pair that starts with a surrogate starts with a whole pair. -/
theorem pair_of_half {u : UInt16} {rest : Units} (half : plain u = false)
    (whole : paired (u :: rest) = true) :
    ∃ low others, rest = low :: others ∧ isHigh u = true ∧ isLow low = true := by
  have first : isLow u = false := not_starts_low_of_paired whole
  have high : isHigh u = true := by simpa [plain, first] using half
  cases apart : startsLow rest with
  | false => simp [paired_high high apart] at whole
  | true =>
      cases rest with
      | nil => cases apart
      | cons low others => exact ⟨low, others, rfl, high, apart⟩

theorem starts_low_append {front back : Units} (first : startsLow front = false)
    (second : startsLow back = false) : startsLow (front ++ back) = false := by
  cases front with
  | nil => exact second
  | cons u rest => exact first

theorem not_starts_low_cons {u : UInt16} (single : plain u = true) (rest : Units) :
    startsLow (u :: rest) = false := by
  simp only [plain, Bool.and_eq_true, Bool.not_eq_true'] at single
  exact single.2

theorem starts_low_take {text : Units} (first : startsLow text = false) (count : Nat) :
    startsLow (text.take count) = false := by
  cases text with
  | nil => simp [startsLow]
  | cons u rest =>
      cases count with
      | zero => rfl
      | succ count => exact first

theorem plain_of_ascii {u : UInt16} (small : u.toNat < 0x80) : plain u = true := by
  simp only [plain, isHigh, isLow, Surrogate.isHigh, Surrogate.isLow, Bool.and_eq_true,
    Bool.not_eq_true', Bool.and_eq_false_iff, decide_eq_false_iff_not]
  omega

theorem ends_high_cons {rest : Units} (last : rest.getLast?.any isHigh = true) (u : UInt16) :
    (u :: rest).getLast?.any isHigh = true := by
  cases found : rest.getLast? with
  | none => simp [found] at last
  | some v => simpa [List.getLast?_cons, found] using last

/-- What stands in front of a low half in a text without half of a pair ends in the other half. -/
theorem ends_high_of_cut {front back : Units} (low : startsLow back = true)
    (whole : paired (front ++ back) = true) :
    paired front = false ∧ front.getLast?.any isHigh = true := by
  induction front using toChars?.induct with
  | case1 =>
      rw [List.nil_append] at whole
      rw [not_starts_low_of_paired whole] at low
      cases low
  | case2 u high => simp [paired_high_alone high, high]
  | case3 u high next rest second ih =>
      rw [List.cons_append, List.cons_append, paired_pair high second] at whole
      obtain ⟨broken, last⟩ := ih whole
      exact ⟨by rwa [paired_pair high second], ends_high_cons (ends_high_cons last next) u⟩
  | case4 u high next rest other =>
      have between : ∀ more, startsLow (next :: more) = false := by simpa [startsLow] using other
      simp [paired_high high (between _)] at whole
  | case5 u rest other second => simp [paired_low (by simpa using other) second] at whole
  | case6 u rest notHigh notLow ih =>
      have single : plain u = true := by simp [plain, notHigh, notLow]
      rw [List.cons_append, paired_cons single] at whole
      obtain ⟨broken, last⟩ := ih whole
      exact ⟨by rwa [paired_cons single], ends_high_cons last u⟩

/-- The front of a text loses half of a pair exactly when the cut is inside of one. -/
theorem paired_take {text : Units} (whole : paired text = true) (count : Nat) :
    paired (text.take count) = !cutsPair count text := by
  have parts : paired (text.take count ++ text.drop count) = true := by
    rwa [List.take_append_drop]
  cases low : startsLow (text.drop count) with
  | true =>
      obtain ⟨broken, last⟩ := ends_high_of_cut low parts
      simp [cutsPair, low, broken, last]
  | false =>
      rw [paired_append low, Bool.and_eq_true] at parts
      simp [cutsPair, low, parts.1]

end TemplateScript.Units
