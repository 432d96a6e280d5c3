import TemplateScript.Proofs.Builtin.Address
import TemplateScript.Proofs.Builtin.Expression
import TemplateScript.Proofs.Builtin.WholeNumbers
import TemplateScript.Proofs.Text.Pairs

/-!
Formatting and surrogate pairs.

A format without half of a pair is split at its percent signs only, so that no pair of it is taken
apart. Flags and widths put blanks, zeros and signs in front of a text or behind it, and every verb
but one kind writes all of its argument or writes it anew. Only a precision under the verbs that
show a text as it is cuts, and it counts units: where the cut falls inside of a pair, half of the
pair is written, and nothing that follows makes up for it.
-/
namespace TemplateScript.Printf

open TemplateScript.Units

def Directive.halves (d : Directive) (text : Units) : Bool :=
  match Char.ofNat d.verb.toNat with
  | 'v' | 's' => d.precision.any fun count => cutsPair count text
  | _ => false

/-- The directives that take an argument and find one, each with its argument. -/
def handed {α : Type} : List Piece → List α → List (Directive × α)
  | [], _ => []
  | .unit _ :: rest, args => handed rest args
  | .directive d :: rest, args =>
      if d.verb = Units.unit '%' then handed rest args
      else
        match args with
        | [] => []
        | value :: args => (d, value) :: handed rest args

section Splitting

/-- Some plain units of a text were read, and this is the rest. -/
def Behind (text rest : Units) : Prop :=
  ∃ front, text = front ++ rest ∧ ∀ u ∈ front, plain u = true

theorem Behind.refl (text : Units) : Behind text text :=
  ⟨[], rfl, by simp⟩

theorem Behind.trans {text middle rest : Units} (first : Behind text middle)
    (second : Behind middle rest) : Behind text rest := by
  obtain ⟨front, rfl, frontPlain⟩ := first
  obtain ⟨next, rfl, nextPlain⟩ := second
  refine ⟨front ++ next, by simp, ?_⟩
  intro u member
  rcases List.mem_append.mp member with early | late
  · exact frontPlain u early
  · exact nextPlain u late

theorem Behind.cons {u : UInt16} (first : plain u = true) (rest : Units) :
    Behind (u :: rest) rest :=
  ⟨[u], rfl, by simpa using first⟩

theorem Behind.paired {text rest : Units} (behind : Behind text rest) :
    Units.paired text = Units.paired rest := by
  obtain ⟨front, rfl, frontPlain⟩ := behind
  exact paired_append_plain frontPlain rest

theorem Behind.drop_while {kind : UInt16 → Bool} (kindPlain : ∀ u, kind u = true → plain u = true)
    (text : Units) : Behind text (text.dropWhile kind) :=
  ⟨text.takeWhile kind, List.takeWhile_append_dropWhile.symm,
    fun u member => kindPlain u (List.mem_takeWhile_imp member)⟩

theorem flag_plain {u : UInt16} (flag : isFlag u = true) : plain u = true :=
  plain_of_ascii (Url.is_one_of_ascii (by decide) flag)

theorem digit_plain {u : UInt16} (digit : Units.isDigit u = true) : plain u = true := by
  apply plain_of_ascii
  have upper := (Bool.and_eq_true_iff.mp digit).2
  have bound : u ≤ Units.unit '9' := by simpa using upper
  have code : u.toNat ≤ 57 := UInt16.le_iff_toNat_le.mp bound
  omega

theorem verb_plain {u : UInt16} (verb : isVerb u = true) : plain u = true := by
  apply plain_of_ascii
  simp only [isVerb, Bool.or_eq_true, decide_eq_true_eq] at verb
  rcases verb with letter | rfl
  · exact Url.alphanumeric_ascii (by simp [Url.isAlphanumeric, letter])
  · decide

theorem read_number_behind (text : Units) : Behind text (readNumber text).2 := by
  unfold readNumber
  split
  · exact .refl text
  · exact .drop_while (fun _ => digit_plain) text

theorem read_precision_behind (text : Units) : Behind text (readPrecision text).2 := by
  unfold readPrecision
  split
  · next point rest =>
      split
      · next same =>
          have number := read_number_behind rest
          split
          · next found =>
              rw [found] at number
              exact (Behind.cons (by rw [same]; decide) rest).trans number
          · exact .refl _
      · exact .refl _
  · exact .refl _

theorem read_directive_behind {text rest : Units} {d : Directive}
    (read : readDirective? text = some (d, rest)) : Behind text rest ∧ isVerb d.verb = true := by
  have flags : Behind text (text.dropWhile isFlag) := .drop_while (fun _ => flag_plain) text
  have width := read_number_behind (text.dropWhile isFlag)
  have precision := read_precision_behind (readNumber (text.dropWhile isFlag)).2
  unfold readDirective? at read
  dsimp only at read
  split at read
  · next verb others found =>
      split at read
      · next known =>
          cases read
          rw [found] at precision
          have last : Behind (verb :: rest) rest := .cons (verb_plain known) rest
          exact ⟨((flags.trans width).trans precision).trans last, known⟩
      · cases read
  · cases read

/-- Pieces that hold no half of a pair: units that are no surrogates, pairs of them, and directives
with their verbs. -/
inductive Whole : List Piece → Prop
  | nil : Whole []
  | unit {u : UInt16} {rest : List Piece} : plain u = true → Whole rest → Whole (.unit u :: rest)
  | pair {high low : UInt16} {rest : List Piece} : isHigh high = true → isLow low = true →
      Whole rest → Whole (.unit high :: .unit low :: rest)
  | directive {d : Directive} {rest : List Piece} : isVerb d.verb = true → Whole rest →
      Whole (.directive d :: rest)

theorem pieces_percent (rest : Units) :
    pieces (Units.unit '%' :: rest) =
      match readDirective? rest with
      | some (d, behind) => .directive d :: pieces behind
      | none => .unit (Units.unit '%') :: pieces rest := by
  simp only [pieces, List.length_cons, split, if_true]
  cases read : readDirective? rest with
  | none => rfl
  | some found =>
      obtain ⟨d, behind⟩ := found
      have shorter := read_directive_shorter read
      simp only [split_fuel (Nat.le_of_lt shorter) (Nat.le_refl behind.length)]

theorem surrogate_ne_percent {u : UInt16} (half : plain u = false) : u ≠ Units.unit '%' := by
  rintro rfl
  exact absurd half (by decide)

theorem pieces_whole (format : Units) (whole : paired format = true) : Whole (pieces format) := by
  match format with
  | [] => exact .nil
  | u :: rest =>
      by_cases percent : u = Units.unit '%'
      · subst percent
        have later : paired rest = true := by rwa [paired_cons (by decide)] at whole
        rw [pieces_percent]
        cases read : readDirective? rest with
        | none => exact .unit (by decide) (pieces_whole rest later)
        | some found =>
            obtain ⟨d, behind⟩ := found
            obtain ⟨skipped, known⟩ := read_directive_behind read
            have shorter := read_directive_shorter read
            exact .directive known (pieces_whole behind (skipped.paired ▸ later))
      · rw [pieces_unit percent]
        cases single : plain u with
        | true => exact .unit single (pieces_whole rest (by rwa [paired_cons single] at whole))
        | false =>
            obtain ⟨low, others, rfl, first, second⟩ := pair_of_half single whole
            have apart : low ≠ Units.unit '%' := surrogate_ne_percent (by simp [plain, second])
            rw [pieces_unit apart]
            rw [paired_pair first second] at whole
            exact .pair first second (pieces_whole others whole)
termination_by format.length

end Splitting

section Formatting

theorem filling_plain (count : Nat) {u : UInt16} (single : plain u = true) :
    ∀ v ∈ List.replicate count u, plain v = true := by
  intro v member
  rwa [(List.mem_replicate.mp member).2]

variable {d : Directive} {text : Units}

/-- Padding has no part in any pair. -/
theorem padded_paired (first : startsLow text = false) :
    paired (padded d text) = paired text ∧ startsLow (padded d text) = false := by
  have blanks := filling_plain (d.width.getD 0 - text.length) (by decide : plain blank = true)
  have zeros := filling_plain (d.width.getD 0 - text.length) (by decide : plain zero = true)
  unfold padded
  dsimp only
  split
  · rw [paired_append (not_starts_low_of_plain blanks), paired_of_plain blanks, Bool.and_true]
    exact ⟨rfl, starts_low_append first (not_starts_low_of_plain blanks)⟩
  · split
    · split
      · next sign rest =>
          split
          · next isSign =>
              have single : plain sign = true := by rcases isSign with rfl | rfl <;> decide
              rw [paired_cons single, paired_cons single, paired_append_plain zeros]
              exact ⟨rfl, first⟩
          · rw [paired_append_plain zeros]
            exact ⟨rfl, starts_low_append (not_starts_low_of_plain zeros) first⟩
      · exact ⟨paired_of_plain zeros, not_starts_low_of_plain zeros⟩
    · rw [paired_append_plain blanks]
      exact ⟨rfl, starts_low_append (not_starts_low_of_plain blanks) first⟩

theorem pad_ok {segments : List Segment} (given : pad d text = .ok segments) :
    toUnits segments = padded d text := by
  by_cases fits : d.width.getD 0 ≤ longest
  · obtain ⟨own, found, same⟩ := pad_eq fits
    rw [found] at given
    rw [← Except.ok.inj given]
    exact same
  · by_cases enough : d.width.getD 0 ≤ text.length
    · simp only [pad, enough, if_true, Except.ok.injEq] at given
      rw [← given, padded_short enough]
      exact List.append_nil text
    · have long : longest < d.width.getD 0 := Nat.lt_of_not_le fits
      simp only [pad, enough, long, if_false, if_true] at given
      split at given <;> cases given

theorem pad_paired {segments : List Segment} (first : startsLow text = false)
    (given : pad d text = .ok segments) :
    paired (toUnits segments) = paired text ∧ startsLow (toUnits segments) = false := by
  rw [pad_ok given]
  exact padded_paired first

theorem pad_whole {segments : List Segment} (whole : paired text = true)
    (given : pad d text = .ok segments) :
    paired (toUnits segments) = true ∧ startsLow (toUnits segments) = false := by
  have kept := pad_paired (not_starts_low_of_paired whole) given
  rwa [whole] at kept

theorem with_sign_paired (d : Directive) (value : Double) (whole : paired text = true) :
    paired (withSign d value text) = true := by
  unfold withSign
  split
  · split
    · rwa [paired_cons (by decide)]
    · split
      · rwa [paired_cons (by decide)]
      · exact whole
  · exact whole

theorem fixed_paired {value : Double} {out : Units} (given : fixed d value = .ok out) :
    paired out = true := by
  unfold fixed at given
  dsimp only at given
  split at given
  · cases given
  · rw [← Except.ok.inj given]
    exact paired_units _

theorem json_string_paired (whole : paired text = true) :
    paired (Value.jsonString text) = true := by
  obtain ⟨characters, rfl⟩ := paired_iff.mp whole
  rw [Value.json_string_units]
  exact paired_units _

theorem hex_pair_ascii (code : Nat) : ∀ u ∈ Units.hexPair code, u.toNat < 0x80 := by
  have all : ∀ rest < 16, (Units.unit (Nat.digitChar rest)).toNat < 0x80 := by decide
  have digit (n : Nat) : (Units.hexDigit n).toNat < 0x80 := all (n % 16) (Nat.mod_lt _ (by decide))
  simp [Units.hexPair, digit]

theorem to_upper_ascii {u : UInt16} (small : u.toNat < 0x80) : (Units.toUpper u).toNat < 0x80 := by
  have all : ∀ code < 0x80, (Units.toUpper (UInt16.ofNat code)).toNat < 0x80 := by decide
  simpa using all u.toNat small

theorem to_lower_hex_ascii {u : UInt16} (digit : Url.isUpperHex u = true) :
    (Units.toLower u).toNat < 0x80 := by
  have small : u.toNat < 0x80 := by
    simp only [Url.isUpperHex, Bool.or_eq_true, Bool.and_eq_true, decide_eq_true_eq] at digit
    rcases digit with decimal | ⟨_, upper⟩
    · exact Url.alphanumeric_ascii (by simp [Url.isAlphanumeric, decimal])
    · have code : u.toNat ≤ 70 := UInt16.le_iff_toNat_le.mp upper
      omega
  have all : ∀ code < 0x80, (Units.toLower (UInt16.ofNat code)).toNat < 0x80 := by decide
  simpa using all u.toNat small

/-- The bytes of a text are written with digits only. -/
theorem unescape_hex_ascii (text : Units) : ∀ u ∈ Url.unescapeHex text, u.toNat < 0x80 := by
  induction text using Url.unescapeHex.induct with
  | case1 => simp [Url.unescapeHex]
  | case2 a b c rest escape ih =>
      rw [Url.unescapeHex, if_pos escape]
      simp only [List.forall_mem_cons]
      exact ⟨to_lower_hex_ascii escape.2.1, to_lower_hex_ascii escape.2.2, ih⟩
  | case3 a b c rest other ih =>
      rw [Url.unescapeHex, if_neg other]
      exact List.forall_mem_append.mpr ⟨hex_pair_ascii _, ih⟩
  | case4 a rest short ih =>
      rw [Url.unescapeHex]
      · exact List.forall_mem_append.mpr ⟨hex_pair_ascii _, ih⟩
      · exact short

theorem hex_ascii {text out : Units} (given : hex (.string text) = .ok out) :
    ∀ u ∈ out, u.toNat < 0x80 := by
  unfold hex at given
  dsimp only [Value.print] at given
  split at given
  · next found =>
      obtain ⟨encoded, _, rfl⟩ := Option.map_eq_some_iff.mp found
      rw [← Except.ok.inj given]
      exact unescape_hex_ascii encoded
  · cases given

theorem truncated_paired (whole : paired text = true) :
    paired (truncated d text) = !(d.precision.any fun count => cutsPair count text) ∧
      startsLow (truncated d text) = false := by
  have first := not_starts_low_of_paired whole
  unfold truncated
  cases d.precision with
  | none => exact ⟨whole, first⟩
  | some count => exact ⟨paired_take whole count, starts_low_take first count⟩

/-- Under the verbs that show a text as it is, only the precision counts. -/
theorem shown_paired {segments : List Segment}
    (shown : Char.ofNat d.verb.toNat = 'v' ∨ Char.ofNat d.verb.toNat = 's')
    (whole : paired text = true) (given : pad d (truncated d text) = .ok segments) :
    paired (toUnits segments) = !d.halves text ∧ startsLow (toUnits segments) = false := by
  have cut : d.halves text = d.precision.any fun count => cutsPair count text := by
    rcases shown with verb | verb <;> simp [Directive.halves, verb]
  obtain ⟨kept, first⟩ := truncated_paired (d := d) whole
  rw [cut, ← kept]
  exact pad_paired first given

theorem halves_other
    (other : Char.ofNat d.verb.toNat ≠ 'v' ∧ Char.ofNat d.verb.toNat ≠ 's') :
    d.halves text = false := by
  unfold Directive.halves
  split
  · next verb => exact absurd verb other.1
  · next verb => exact absurd verb other.2
  · rfl

theorem written_paired {segments : List Segment} {out : Units}
    (other : Char.ofNat d.verb.toNat ≠ 'v' ∧ Char.ofNat d.verb.toNat ≠ 's')
    (written : paired out = true) (given : pad d out = .ok segments) :
    paired (toUnits segments) = !d.halves text ∧ startsLow (toUnits segments) = false := by
  rw [halves_other other]
  exact pad_whole written given

theorem note_plain (verb : isVerb d.verb = true) :
    ∀ u ∈ units "%!" ++ [d.verb], plain u = true := by
  have mark : ∀ u ∈ units "%!", plain u = true := by decide
  exact List.forall_mem_append.mpr ⟨mark, by simpa using verb_plain verb⟩

theorem unknown_paired (verb : isVerb d.verb = true) (whole : paired text = true) :
    paired (units "%!" ++ [d.verb] ++ units "(" ++ text ++ units ")") = true := by
  have closing := not_starts_low_of_paired (paired_units ")")
  have opening : ∀ u ∈ units "(", plain u = true := by decide
  rw [List.append_assoc, List.append_assoc, paired_append_plain (note_plain verb),
    paired_append_plain opening, paired_append closing, whole, paired_units]
  rfl

theorem missing_paired (verb : isVerb d.verb = true) : paired (missing d) = true := by
  rw [missing, paired_append_plain (note_plain verb)]
  exact paired_units "(MISSING)"

/-- A text that a directive takes keeps its pairs, unless the precision cuts one of them. -/
theorem format_paired {segments : List Segment} (verb : isVerb d.verb = true)
    (whole : paired text = true) (given : format d (.string text) = .ok segments) :
    paired (toUnits segments) = !d.halves text ∧ startsLow (toUnits segments) = false := by
  have digits {out : Units} (small : ∀ u ∈ out, u.toNat < 0x80) : paired out = true :=
    paired_of_plain fun u member => plain_of_ascii (small u member)
  unfold format at given
  split at given
  · next shown => exact shown_paired (.inl shown) whole given
  · next shown => exact shown_paired (.inr shown) whole given
  · next quotes => exact written_paired (by simp [quotes]) (json_string_paired whole) given
  · next whole =>
      obtain ⟨number, _, padded⟩ := bind_ok_iff.mp given
      exact written_paired (by simp [whole]) (with_sign_paired d number (paired_units _)) padded
  · next truth => exact written_paired (by simp [truth]) (paired_units _) given
  · next places =>
      obtain ⟨number, _, rest⟩ := bind_ok_iff.mp given
      obtain ⟨written, fixed, padded⟩ := bind_ok_iff.mp rest
      exact written_paired (by simp [places])
        (with_sign_paired d number (fixed_paired fixed)) padded
  · next small =>
      obtain ⟨written, bytes, padded⟩ := bind_ok_iff.mp given
      exact written_paired (by simp [small]) (digits (hex_ascii bytes)) padded
  · next capital =>
      obtain ⟨written, bytes, padded⟩ := bind_ok_iff.mp given
      refine written_paired (by simp [capital]) (digits ?_) padded
      intro u member
      obtain ⟨source, present, rfl⟩ := List.mem_map.mp member
      exact to_upper_ascii (hex_ascii bytes source present)
  · next notV notS _ _ _ _ _ _ =>
      have written := unknown_paired verb whole
      have single (out : Units) : toUnits [.text out] = out := List.append_nil out
      rw [← Except.ok.inj given, single, halves_other ⟨notV, notS⟩]
      exact ⟨written, not_starts_low_of_paired written⟩

end Formatting

section Writing

section Handed

variable {α : Type} {d : Directive}

@[simp]
theorem handed_nil (pieces : List Piece) : handed pieces ([] : List α) = [] := by
  induction pieces with
  | nil => rfl
  | cons piece rest ih =>
      cases piece with
      | unit u => simpa only [handed] using ih
      | directive d => simp [handed, ih]

theorem handed_percent (percent : d.verb = Units.unit '%') (rest : List Piece) (args : List α) :
    handed (.directive d :: rest) args = handed rest args := by
  cases args <;> simp [handed, percent]

theorem handed_cons (takes : d.verb ≠ Units.unit '%') (rest : List Piece) (value : α)
    (args : List α) :
    handed (.directive d :: rest) (value :: args) = (d, value) :: handed rest args := by
  simp [handed, takes]

end Handed

/-- Pieces without half of a pair write a text without one, unless a precision makes one. -/
theorem write_paired {pieces : List Piece} (whole : Whole pieces) {args : List Units}
    (argsWhole : ∀ text ∈ args, paired text = true) {segments : List Segment}
    (written : write pieces (args.map .string) = .ok segments) :
    (paired (toUnits segments) = (handed pieces args).all fun pair => !pair.1.halves pair.2) ∧
      startsLow (toUnits segments) = false := by
  induction whole generalizing args segments with
  | nil =>
      rw [← Except.ok.inj written]
      exact ⟨rfl, rfl⟩
  | @unit u rest single _ ih =>
      simp only [write, bind_ok_iff, pure_ok_iff] at written
      obtain ⟨later, writtenLater, rfl⟩ := written
      have cons : toUnits (.text [u] :: later) = u :: toUnits later := rfl
      rw [cons, paired_cons single]
      exact ⟨(ih argsWhole writtenLater).1, not_starts_low_cons single _⟩
  | @pair high low rest first second _ ih =>
      simp only [write, bind_ok_iff, pure_ok_iff] at written
      obtain ⟨_, ⟨later, writtenLater, rfl⟩, rfl⟩ := written
      have cons : toUnits (.text [high] :: .text [low] :: later) = high :: low :: toUnits later :=
        rfl
      rw [cons, paired_pair first second]
      exact ⟨(ih argsWhole writtenLater).1, not_low_of_high first⟩
  | @directive d rest verb _ ih =>
      by_cases percent : d.verb = Units.unit '%'
      · simp only [write, percent, if_true, bind_ok_iff, pure_ok_iff] at written
        obtain ⟨later, writtenLater, rfl⟩ := written
        have cons : toUnits (.text [Units.unit '%'] :: later) = Units.unit '%' :: toUnits later :=
          rfl
        rw [cons, paired_cons (by decide), handed_percent percent]
        exact ⟨(ih argsWhole writtenLater).1, not_starts_low_cons (by decide) _⟩
      · cases args with
        | nil =>
            simp only [List.map_nil, write, percent, if_false, bind_ok_iff, pure_ok_iff] at written
            obtain ⟨later, writtenLater, rfl⟩ := written
            obtain ⟨kept, start⟩ := ih argsWhole writtenLater
            have note := missing_paired verb
            have cons : toUnits (.text (missing d) :: later) = missing d ++ toUnits later := rfl
            rw [cons, paired_append start, note, kept, handed_nil, handed_nil]
            exact ⟨rfl, starts_low_append (not_starts_low_of_paired note) start⟩
        | cons text args =>
            simp only [List.map_cons, write, percent, if_false, bind_ok_iff, pure_ok_iff] at written
            obtain ⟨here, formatted, later, writtenLater, rfl⟩ := written
            obtain ⟨first, others⟩ := List.forall_mem_cons.mp argsWhole
            obtain ⟨own, ownStart⟩ := format_paired verb first formatted
            obtain ⟨kept, start⟩ := ih others writtenLater
            rw [to_units_append, paired_append start, own, kept, handed_cons percent]
            exact ⟨rfl, starts_low_append ownStart start⟩

end Writing

/-- A format and arguments without half of a pair give a text without one, whatever the flags and
widths are, exactly when no precision cuts a pair of the argument that it is applied to. -/
theorem formatting_keeps_pairs_iff {format : Units} {args : List Units} {out : Units}
    (formatPaired : paired format = true) (argsPaired : ∀ text ∈ args, paired text = true)
    (given : printf (.string format :: args.map .string) = .ok out) :
    paired out = true ↔
      ∀ pair ∈ handed (pieces format) args, pair.1.halves pair.2 = false := by
  rw [printf_eq] at given
  obtain ⟨segments, written, fits⟩ := bind_ok_iff.mp given
  have same : toUnits segments = out := by
    unfold bounded at fits
    split at fits
    · cases fits
    · exact Except.ok.inj fits
  obtain ⟨kept, _⟩ := write_paired (pieces_whole format formatPaired) argsPaired written
  rw [← same, kept, List.all_eq_true]
  simp only [Bool.not_eq_true']

/-- A width in front of a pair, and a precision that ends between two characters. -/
theorem padded_faces_keep_pairs :
    paired (units "%-4s|%05.1v.") = true ∧ (∀ text ∈ [units "😀", units "é😀"], paired text = true) ∧
    printf ([units "%-4s|%05.1v.", units "😀", units "é😀"].map .string) =
      .ok (units "😀  |0000é.") ∧
    paired (units "😀  |0000é.") = true := by
  have formatPaired := paired_units "%-4s|%05.1v."
  have argsPaired : ∀ text ∈ [units "😀", units "é😀"], paired text = true := by
    simp [paired_units]
  have given : printf (.string (units "%-4s|%05.1v.") :: [units "😀", units "é😀"].map .string) =
      .ok (units "😀  |0000é.") := by decide +kernel
  exact ⟨formatPaired, argsPaired, given,
    (formatting_keeps_pairs_iff formatPaired argsPaired given).mpr (by decide +kernel)⟩

/-- A precision counts units. -/
theorem precision_halves_pair :
    paired (units "%.1s") = true ∧ paired (units "😀") = true ∧
    printf [.string (units "%.1s"), .string (units "😀")] = .ok [0xD83D] ∧
    paired [0xD83D] = false :=
  ⟨paired_units _, paired_units _, by decide +kernel, by decide⟩

end TemplateScript.Printf
