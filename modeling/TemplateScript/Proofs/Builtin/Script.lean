import TemplateScript.Proofs.Builtin.Html

/-!
Text escaped for a script.

The inside of a string literal and a regular expression are read alike: a backslash says what the
unit after it stands for, some characters cannot stand for themselves, and every other unit does.
The escapers for scripts write one such item for each unit of a text. So a script reads the text
back, whatever units it holds and however they would run together, and no character that means
something to the script or to the page around it is left outside of an escape.
-/
namespace TemplateScript.Escape

def backslash : UInt16 := Units.unit '\\'

def codeMark : UInt16 := Units.unit 'u'

def coded? (digits : Units) : Option UInt16 :=
  (Digits.value? 16 (digits.map fun u => Char.ofNat u.toNat)).map UInt16.ofNat

/-- How the inside of a literal is read. -/
structure Grammar where
  /-- Characters that cannot stand for themselves. The backslash never does. -/
  special : List Char
  /-- Characters that a backslash may stand before, each with what the two stand for. -/
  marks : List (Char × Char)

namespace Grammar

variable (grammar : Grammar)

def marked? (mark : UInt16) : Option UInt16 :=
  (grammar.marks.find? fun entry => Units.unit entry.1 = mark).map fun entry => Units.unit entry.2

def read? : Units → Option Units
  | [] => some []
  | u :: rest =>
      if u = backslash then
        match rest with
        | [] => none
        | mark :: rest =>
            if mark = codeMark then
              match rest with
              | a :: b :: c :: d :: rest =>
                  (coded? [a, b, c, d]).bind fun unit => (read? rest).map (unit :: ·)
              | _ => none
            else (grammar.marked? mark).bind fun unit => (read? rest).map (unit :: ·)
      else if Units.isOneOf grammar.special u then none
      else (read? rest).map (u :: ·)

/-- The unit that a single item stands for: a unit by itself, or an escape. -/
def item? : Units → Option UInt16
  | [u] => if u = backslash ∨ Units.isOneOf grammar.special u then none else some u
  | [first, mark] =>
      if first = backslash ∧ mark ≠ codeMark then grammar.marked? mark else none
  | [first, mark, a, b, c, d] =>
      if first = backslash ∧ mark = codeMark then coded? [a, b, c, d] else none
  | _ => none

end Grammar

/-- The units that no backslash takes along, where one stood in front of the text or not. -/
def outsideAfter : Bool → Units → Units
  | _, [] => []
  | true, _ :: rest => outsideAfter false rest
  | false, u :: rest =>
      if u = backslash then outsideAfter true rest else u :: outsideAfter false rest

def outside (text : Units) : Units :=
  outsideAfter false text

/-- Units that a literal may not hold as they are, besides those of a table. -/
def breaksLiteral (u : UInt16) : Bool :=
  u < 0x20 || u = 0x2028 || u = 0x2029

def spelled (entries : Table) (code : UInt16 → Units) (u : UInt16) : Units :=
  (entries.lookup u).getD (if breaksLiteral u then code u else [u])

/-- Whether a unit is written in another way than by itself. -/
def respelled (entries : Table) (u : UInt16) : Bool :=
  (entries.lookup u).isSome || breaksLiteral u

def codeCharacters : String := "\\u0123456789abcdefABCDEF"

structure Codes (code : UInt16 → Units) : Prop where
  escape : ∀ u, ∃ a b c d, code u = [backslash, codeMark, a, b, c, d] ∧ coded? [a, b, c, d] = some u
  characters : ∀ u, ∀ v ∈ code u, v ∈ units codeCharacters

/-- A table that writes each of its units as an item standing for it, and all characters that cannot
stand for themselves. It leaves none of the exposed characters outside of an escape, and none of the
unwanted ones anywhere. -/
structure Sound (grammar : Grammar) (exposed unwanted : List Char) (entries : Table) : Prop where
  denoting : ∀ entry ∈ entries, grammar.item? entry.2 = some entry.1
  written : ('\\' :: grammar.special ++ (exposed ++ unwanted)).all
    (fun c => respelled entries (Units.unit c)) = true
  hidden : ∀ entry ∈ entries, FreeOf exposed (outside entry.2)
  absent : ∀ entry ∈ entries, FreeOf unwanted entry.2
  uncoded : FreeOf (exposed ++ unwanted) (units codeCharacters)

instance (grammar : Grammar) (exposed unwanted : List Char) (entries : Table) :
    Decidable (Sound grammar exposed unwanted entries) :=
  decidable_of_iff (_ ∧ _ ∧ _ ∧ _ ∧ _)
    ⟨fun ⟨denoting, written, hidden, absent, uncoded⟩ =>
        ⟨denoting, written, hidden, absent, uncoded⟩,
      fun sound => ⟨sound.denoting, sound.written, sound.hidden, sound.absent, sound.uncoded⟩⟩

section Items

variable {grammar : Grammar} {text : Units} {u : UInt16}

/-- An item is a unit that stands for itself, a mark behind a backslash or an escape by code. -/
theorem item_cases (item : grammar.item? text = some u) :
    (text = [u] ∧ u ≠ backslash ∧ Units.isOneOf grammar.special u = false) ∨
    (∃ mark, text = [backslash, mark] ∧ mark ≠ codeMark ∧ grammar.marked? mark = some u) ∨
    ∃ a b c d, text = [backslash, codeMark, a, b, c, d] ∧ coded? [a, b, c, d] = some u := by
  unfold Grammar.item? at item
  split at item
  · next own =>
      split at item
      · cases item
      · next plain =>
          cases item
          rw [not_or, Bool.not_eq_true] at plain
          exact .inl ⟨rfl, plain⟩
  · next first mark =>
      split at item
      · next escape =>
          obtain ⟨rfl, other⟩ := escape
          exact .inr (.inl ⟨mark, rfl, other, item⟩)
      · cases item
  · next first mark a b c d =>
      split at item
      · next escape =>
          obtain ⟨rfl, rfl⟩ := escape
          exact .inr (.inr ⟨a, b, c, d, rfl, item⟩)
      · cases item
  · cases item

theorem read_item (item : grammar.item? text = some u) (rest : Units) :
    grammar.read? (text ++ rest) = (grammar.read? rest).map (u :: ·) := by
  rcases item_cases item with ⟨rfl, apart, plain⟩ | ⟨mark, rfl, other, stands⟩ |
    ⟨a, b, c, d, rfl, stands⟩
  · rw [List.singleton_append, Grammar.read?.eq_def]
    simp [apart, plain]
  · rw [List.cons_append, List.singleton_append, Grammar.read?.eq_def]
    simp [other, stands]
  · rw [List.cons_append, List.cons_append, Grammar.read?.eq_def]
    simp [stands]

/-- Only digits are read as a number. -/
theorem digits_of_continue {base total n : Nat} {digits : List Char}
    (read : Digits.continue? base total digits = some n) :
    ∀ c ∈ digits, (Digits.digit? base c).isSome = true := by
  induction digits generalizing total with
  | nil => simp
  | cons c rest ih =>
      obtain ⟨digit, found, others⟩ := Option.bind_eq_some_iff.mp read
      rw [List.forall_mem_cons]
      exact ⟨by rw [found]; rfl, ih others⟩

theorem coded_apart {a b c d : UInt16} (stands : coded? [a, b, c, d] = some u) :
    ∀ v ∈ [a, b, c, d], v ≠ backslash := by
  obtain ⟨n, read, _⟩ := Option.map_eq_some_iff.mp stands
  have digits : ∀ v ∈ [a, b, c, d], (Digits.digit? 16 (Char.ofNat v.toNat)).isSome = true :=
    List.forall_mem_map.mp (digits_of_continue read)
  rintro v member rfl
  exact absurd (digits _ member) (by decide)

/-- What follows an item is outside of escapes just as if it stood alone. -/
theorem outside_item (item : grammar.item? text = some u) (rest : Units) :
    outside (text ++ rest) = outside text ++ outside rest := by
  rcases item_cases item with ⟨rfl, apart, _⟩ | ⟨mark, rfl, _, _⟩ | ⟨a, b, c, d, rfl, stands⟩
  · simp [outside, outsideAfter, apart]
  · simp [outside, outsideAfter]
  -- The digits of a code are outside of the escape, but none of them can begin another one.
  · have apart := coded_apart stands
    simp only [List.forall_mem_cons] at apart
    simp [outside, outsideAfter, apart]

end Items

section Codes

structure Digit (write : Nat → UInt16) : Prop where
  read : ∀ digit, Digits.digit? 16 (Char.ofNat (write digit).toNat) = some (digit % 16)
  character : ∀ digit, write digit ∈ units codeCharacters

theorem digit_of_sixteen {write : Nat → UInt16} (cyclic : ∀ digit, write digit = write (digit % 16))
    (sixteen : ∀ digit < 16, Digits.digit? 16 (Char.ofNat (write digit).toNat) = some digit ∧
      write digit ∈ units codeCharacters) : Digit write := by
  constructor
  · intro digit
    rw [cyclic]
    exact (sixteen (digit % 16) (Nat.mod_lt _ (by decide))).1
  · intro digit
    rw [cyclic]
    exact (sixteen (digit % 16) (Nat.mod_lt _ (by decide))).2

theorem hex_digit_mod (digit : Nat) : Units.hexDigit digit = Units.hexDigit (digit % 16) := by
  rw [Units.hexDigit, Units.hexDigit, Nat.mod_mod]

theorem digit_lower : Digit Units.hexDigit := by
  apply digit_of_sixteen hex_digit_mod
  decide

theorem digit_upper : Digit fun digit => Units.toUpper (Units.hexDigit digit) := by
  apply digit_of_sixteen fun digit => congrArg Units.toUpper (hex_digit_mod digit)
  decide

theorem Digit.codes {write : Nat → UInt16} (digit : Digit write) :
    Codes fun u => units "\\u" ++
      [write (u.toNat / 4096), write (u.toNat / 256), write (u.toNat / 16), write u.toNat] := by
  constructor
  · intro u
    refine ⟨_, _, _, _, rfl, ?_⟩
    have read : Digits.value? 16
        ([write (u.toNat / 4096), write (u.toNat / 256), write (u.toNat / 16), write u.toNat].map
          fun v => Char.ofNat v.toNat) = some u.toNat := by
      have bound := u.toNat_lt
      simp only [Digits.value?, List.map_cons, List.map_nil, List.isEmpty_cons, Digits.continue?,
        digit.read, Option.bind_some, Bool.false_eq_true, if_false, Option.some.injEq]
      omega
    rw [coded?, read, Option.map_some, UInt16.ofNat_toNat]
  · intro u v member
    have marks : (units "\\u").all (· ∈ units codeCharacters) = true := by decide
    rcases List.mem_append.mp member with first | last
    · exact of_decide_eq_true (List.all_eq_true.mp marks v first)
    · simp only [List.mem_cons, List.not_mem_nil, or_false] at last
      rcases last with rfl | rfl | rfl | rfl <;> exact digit.character _

theorem codes_lower : Codes unicodeLower :=
  digit_lower.codes

theorem codes_upper : Codes unicodeUpper :=
  digit_upper.codes

end Codes

section Table

variable {grammar : Grammar} {exposed unwanted : List Char} {entries : Table}
variable {code : UInt16 → Units}

/-- A unit is written by the table, by its code, or by itself. -/
theorem spelled_cases (entries : Table) (code : UInt16 → Units) (u : UInt16) :
    (u, spelled entries code u) ∈ entries ∨ spelled entries code u = code u ∨
      (spelled entries code u = [u] ∧ respelled entries u = false) := by
  cases found : entries.lookup u with
  | some text =>
      have kept : spelled entries code u = text := by simp [spelled, found]
      rw [kept]
      exact .inl (mem_of_lookup found)
  | none =>
      by_cases breaks : breaksLiteral u = true
      · exact .inr (.inl (by simp [spelled, found, breaks]))
      · exact .inr (.inr (by simp [spelled, respelled, found, breaks]))

theorem replace_spelled {pattern : Class} (looks : ∀ u, pattern.has u = respelled entries u)
    (text : Units) :
    replace pattern entries code text = text.flatMap (spelled entries code) := by
  have same : (fun u => if pattern.has u then (entries.lookup u).getD (code u) else [u]) =
      spelled entries code := by
    funext u
    rw [looks u, respelled, spelled]
    cases entries.lookup u <;> rfl
  rw [replace, same]

theorem control_iff (u : UInt16) :
    Units.unit '\x00' ≤ u ∧ u ≤ Units.unit '\x1f' ↔ u < 0x20 := by
  constructor
  · rintro ⟨_, below⟩
    have bound : u.toNat ≤ 0x1f := UInt16.le_iff_toNat_le.mp below
    exact UInt16.lt_iff_toNat_lt.mpr (Nat.lt_succ_of_le bound)
  · intro small
    have bound : u.toNat < 0x20 := UInt16.lt_iff_toNat_lt.mp small
    exact ⟨UInt16.le_iff_toNat_le.mpr (Nat.zero_le _),
      UInt16.le_iff_toNat_le.mpr (Nat.le_of_lt_succ bound)⟩

theorem respelled_iff (entries : Table) (u : UInt16) :
    respelled entries u = true ↔
      u ∈ entries.map Prod.fst ∨ u < 0x20 ∨ u = 0x2028 ∨ u = 0x2029 := by
  rw [respelled, Bool.or_eq_true, lookup_is_some_iff]
  simp [breaksLiteral, or_assoc]

/-- A class with all controls and the ends of lines holds the units of a table and those that break
a literal, if it holds the former and nothing else. -/
theorem has_eq_respelled {pattern : Class} (controls : pattern.ranges = [('\x00', '\x1f')])
    (ends : '\u2028' ∈ pattern.characters ∧ '\u2029' ∈ pattern.characters)
    (keys : (entries.map Prod.fst).all pattern.has = true)
    (written : pattern.characters.all (fun c => respelled entries (Units.unit c)) = true)
    (u : UInt16) : pattern.has u = respelled entries u := by
  have held : pattern.has u = true ↔ u ∈ pattern.characters.map Units.unit ∨ u < 0x20 := by
    rw [class_has_iff, controls]
    simp [control_iff]
  rw [Bool.eq_iff_iff]
  constructor
  · intro has
    rcases held.mp has with named | small
    · obtain ⟨c, member, rfl⟩ := List.mem_map.mp named
      exact List.all_eq_true.mp written c member
    · exact (respelled_iff entries u).mpr (.inr (.inl small))
  · intro other
    rcases (respelled_iff entries u).mp other with key | small | rfl | rfl
    · exact List.all_eq_true.mp keys u key
    · exact held.mpr (.inr small)
    · exact held.mpr (.inl (List.mem_map_of_mem ends.1))
    · exact held.mpr (.inl (List.mem_map_of_mem ends.2))

theorem Sound.respelled (sound : Sound grammar exposed unwanted entries) {c : Char}
    (member : c ∈ '\\' :: grammar.special ++ (exposed ++ unwanted)) :
    respelled entries (Units.unit c) = true :=
  List.all_eq_true.mp sound.written c member

theorem Sound.item_spelled (sound : Sound grammar exposed unwanted entries) (codes : Codes code)
    (u : UInt16) : grammar.item? (spelled entries code u) = some u := by
  rcases spelled_cases entries code u with member | coded | ⟨single, plain⟩
  · exact sound.denoting _ member
  · obtain ⟨a, b, c, d, shape, stands⟩ := codes.escape u
    rw [coded, shape]
    simp [Grammar.item?, stands]
  -- A unit written by itself is none of those that the table has to write, so it can stand alone.
  · have other {c : Char} (member : c ∈ '\\' :: grammar.special ++ (exposed ++ unwanted)) :
        u ≠ Units.unit c := by
      rintro rfl
      rw [sound.respelled member] at plain
      cases plain
    have apart : u ≠ backslash := other (by simp)
    have ordinary : Units.isOneOf grammar.special u = false := by
      simp only [Units.isOneOf, List.contains_eq_mem, decide_eq_false_iff_not, List.mem_map,
        not_exists, not_and]
      intro c member same
      exact other (by simp [member]) same.symm
    rw [single]
    simp [Grammar.item?, apart, ordinary]

theorem Sound.read_spelled (sound : Sound grammar exposed unwanted entries) (codes : Codes code)
    (text : Units) : grammar.read? (text.flatMap (spelled entries code)) = some text := by
  induction text with
  | nil => rfl
  | cons u rest ih =>
      rw [List.flatMap_cons, read_item (sound.item_spelled codes u), ih]
      rfl

/-- Of the characters that a table looks after, codes have none and no other unit is one. -/
theorem Sound.entry_of_mem (sound : Sound grammar exposed unwanted entries) (codes : Codes code)
    {c : Char} (listed : c ∈ exposed ++ unwanted) {u : UInt16}
    (inside : Units.unit c ∈ spelled entries code u) : (u, spelled entries code u) ∈ entries := by
  rcases spelled_cases entries code u with entry | coded | ⟨single, plain⟩
  · exact entry
  · rw [coded] at inside
    exact absurd (codes.characters u _ inside) (sound.uncoded c listed)
  · rw [single, List.mem_singleton] at inside
    subst inside
    rw [sound.respelled (List.mem_append_right _ listed)] at plain
    cases plain

theorem Sound.free_spelled (sound : Sound grammar exposed unwanted entries) (codes : Codes code)
    (text : Units) : FreeOf unwanted (text.flatMap (spelled entries code)) := by
  intro c listed member
  obtain ⟨u, _, inside⟩ := List.mem_flatMap.mp member
  have entry := sound.entry_of_mem codes (List.mem_append_right exposed listed) inside
  exact sound.absent _ entry c listed inside

theorem outside_subset (escaped : Bool) (text : Units) :
    ∀ u ∈ outsideAfter escaped text, u ∈ text := by
  induction text generalizing escaped with
  | nil => cases escaped <;> simp [outsideAfter]
  | cons first rest ih =>
      intro u member
      cases escaped with
      | true => exact List.mem_cons_of_mem first (ih false u member)
      | false =>
          by_cases escape : first = backslash
          · rw [outsideAfter, if_pos escape] at member
            exact List.mem_cons_of_mem first (ih true u member)
          · rw [outsideAfter, if_neg escape] at member
            rcases List.mem_cons.mp member with rfl | later
            · exact List.mem_cons_self
            · exact List.mem_cons_of_mem first (ih false u later)

theorem Sound.outside_spelled (sound : Sound grammar exposed unwanted entries) (codes : Codes code)
    (text : Units) : FreeOf exposed (outside (text.flatMap (spelled entries code))) := by
  intro c listed
  induction text with
  | nil => exact List.not_mem_nil
  | cons u rest ih =>
      rw [List.flatMap_cons, outside_item (sound.item_spelled codes u), List.mem_append, not_or]
      refine ⟨?_, ih⟩
      intro member
      have inside := outside_subset false _ _ member
      have entry := sound.entry_of_mem codes (List.mem_append_left unwanted listed) inside
      exact sound.hidden _ entry c listed member

theorem Sound.spelled_ne_nil (sound : Sound grammar exposed unwanted entries) (codes : Codes code)
    {text : Units} (filled : text ≠ []) : text.flatMap (spelled entries code) ≠ [] := by
  intro empty
  have read := sound.read_spelled codes text
  rw [empty] at read
  cases read
  exact filled rfl

end Table

def lineEnds : List Char := ['\n', '\r', '\u2028', '\u2029']

def controls : List Char := (List.range 0x20).map Char.ofNat

def controlMarks : List (Char × Char) :=
  [('t', '\t'), ('n', '\n'), ('f', '\x0c'), ('r', '\r')]

def stringLiteral : Grammar where
  special := ['"', '\x27'] ++ lineEnds
  marks := [('\\', '\\'), ('\x27', '\x27'), ('"', '"'), ('/', '/')] ++ controlMarks

/-- Characters that mean something in a regular expression, or end it. -/
def patternSyntax : List Char :=
  ['^', '$', '.', '*', '+', '?', '(', ')', '[', ']', '\x7b', '\x7d', '|', '/']

/-- A regular expression that matches a single text. A backslash takes the meaning off a mark. -/
def patternLiteral : Grammar where
  special := patternSyntax ++ lineEnds
  marks := (['\\', '-'] ++ patternSyntax).map (fun c => (c, c)) ++ controlMarks

def pageStringUnwanted : List Char :=
  controls ++ ['"', '&', '\x27', '+', '<', '>', '\x60', '\u2028', '\u2029']

def scriptUnwanted : List Char :=
  controls ++ ['<', '>', '&', '=', '\u2028', '\u2029']

def patternUnwanted : List Char :=
  controls ++ ['"', '&', '\x27', '<', '>', '\x60', '\u2028', '\u2029']

theorem script_tables_sound :
    Sound stringLiteral ['/'] pageStringUnwanted scriptString ∧
      Sound stringLiteral ['"', '\x27'] scriptUnwanted scriptText ∧
      Sound patternLiteral patternSyntax patternUnwanted (scriptPattern ++ scriptString) := by
  decide +kernel

/-- Each class is written down with the units of its table and those that break a literal. -/
theorem script_classes_look :
    (∀ u, scriptStringClass.has u = respelled scriptString u) ∧
      (∀ u, scriptTextClass.has u = respelled scriptText u) ∧
      ∀ u, scriptPatternClass.has u = respelled (scriptPattern ++ scriptString) u :=
  ⟨has_eq_respelled rfl (by decide) (by decide) (by decide),
    has_eq_respelled rfl (by decide) (by decide) (by decide),
    has_eq_respelled rfl (by decide) (by decide) (by decide)⟩

theorem js_string_spelled (text : Units) :
    jsString text = text.flatMap (spelled scriptString unicodeLower) :=
  replace_spelled script_classes_look.1 text

theorem js_spelled (text : Units) : js text = text.flatMap (spelled scriptText unicodeUpper) :=
  replace_spelled script_classes_look.2.1 text

/-- What is returned for a text tells the text, if a reader gets the text from it. -/
theorem injective_of_read {name : String} {read : Units → Option Units}
    (returned : ∀ text, ∃ out, Builtin.call? name [.string text] = some (.ok (.string out)) ∧
      read out = some text) :
    Function.Injective fun text : Units => Builtin.call? name [.string text] := by
  intro text other same
  obtain ⟨out, called, back⟩ := returned text
  obtain ⟨second, calledOther, backOther⟩ := returned other
  simp only [called, calledOther, Option.some.injEq, Except.ok.injEq, Value.string.injEq] at same
  rw [same, backOther, Option.some.injEq] at back
  exact back.symm

/-- For every text, a string literal with what either escaper for strings returns is read as the
text. The one for literals in pages leaves no slash outside of an escape and none of the characters
that mean something to the page, the other one no quote outside of an escape; neither leaves a
control or anything that ends a line. So neither of them returns the same for two texts. -/
theorem script_escaping_safe_and_lossless :
    (∀ text : Units, ∃ out,
      Builtin.call? "_html_template_jsstrescaper" [.string text] = some (.ok (.string out)) ∧
        FreeOf pageStringUnwanted out ∧ FreeOf ['/'] (outside out) ∧
        stringLiteral.read? out = some text) ∧
    (∀ text : Units, ∃ out,
      Builtin.call? "js" [.string text] = some (.ok (.string out)) ∧
        FreeOf scriptUnwanted out ∧ FreeOf ['"', '\x27'] (outside out) ∧
        stringLiteral.read? out = some text) ∧
    (Function.Injective fun text : Units =>
      Builtin.call? "_html_template_jsstrescaper" [.string text]) ∧
    Function.Injective fun text : Units => Builtin.call? "js" [.string text] := by
  obtain ⟨pageString, script, _⟩ := script_tables_sound
  refine ⟨?_, ?_, ?_, ?_⟩
  · intro text
    refine ⟨jsString text, rfl, ?_⟩
    rw [js_string_spelled]
    exact ⟨pageString.free_spelled codes_lower text, pageString.outside_spelled codes_lower text,
      pageString.read_spelled codes_lower text⟩
  · intro text
    refine ⟨js text, rfl, ?_⟩
    rw [js_spelled]
    exact ⟨script.free_spelled codes_upper text, script.outside_spelled codes_upper text,
      script.read_spelled codes_upper text⟩
  · apply injective_of_read
    intro text
    refine ⟨jsString text, rfl, ?_⟩
    rw [js_string_spelled]
    exact pageString.read_spelled codes_lower text
  · apply injective_of_read
    intro text
    refine ⟨js text, rfl, ?_⟩
    rw [js_spelled]
    exact script.read_spelled codes_upper text

theorem js_pattern_filled {text : Units} (filled : text ≠ []) :
    jsPattern text = text.flatMap (spelled (scriptPattern ++ scriptString) unicodeLower) := by
  rw [jsPattern, if_neg (by simpa using filled)]
  exact replace_spelled script_classes_look.2.2 text

/-- For every text the escaper for patterns returns one that is not empty. Unless the text itself
is empty, the pattern is read as the text: none of its characters has a meaning of its own outside
of an escape, and none means something to the page around it. -/
theorem pattern_escaping_matches_literally (text : Units) :
    ∃ out, Builtin.call? "_html_template_jsregexpescaper" [.string text] =
        some (.ok (.string out)) ∧ out ≠ [] ∧
      (text ≠ [] → FreeOf patternSyntax (outside out) ∧ FreeOf patternUnwanted out ∧
        patternLiteral.read? out = some text) := by
  have sound := script_tables_sound.2.2
  refine ⟨jsPattern text, rfl, ?_, ?_⟩
  · by_cases filled : text = []
    · subst filled
      decide
    · rw [js_pattern_filled filled]
      exact sound.spelled_ne_nil codes_lower filled
  · intro filled
    rw [js_pattern_filled filled]
    exact ⟨sound.outside_spelled codes_lower text, sound.free_spelled codes_lower text,
      sound.read_spelled codes_lower text⟩

def hostilePattern : Units := units "^[a-z]+\\u0041</p>$\n"

theorem hostile_pattern_escaped :
    hostilePattern ≠ [] ∧
    ∃ out, Builtin.call? "_html_template_jsregexpescaper" [.string hostilePattern] =
        some (.ok (.string out)) ∧ out ≠ [] ∧
      FreeOf patternSyntax (outside out) ∧ FreeOf patternUnwanted out ∧
      patternLiteral.read? out = some hostilePattern := by
  have filled : hostilePattern ≠ [] := by decide +kernel
  obtain ⟨out, called, written, literally⟩ := pattern_escaping_matches_literally hostilePattern
  exact ⟨filled, out, called, written, literally filled⟩

example : jsPattern (units "[a-z]+\\u0041</p>\n") =
    units "\\[a\\-z\\]\\u002b\\\\u0041\\u003c\\/p\\u003e\\n" := by
  decide +kernel

end TemplateScript.Escape
