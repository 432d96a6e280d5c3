import TemplateScript.Number.Style
import TemplateScript.Proofs.Scope.Arms
import TemplateScript.Proofs.Scope.Hoisting
import TemplateScript.Proofs.Script.Scanner

/-!
Words that script has outside of literals.

Member names, numbers and the names of variables are written as they are. None of them has a bracket
or a quote: members because only plain identifiers are written that way, numbers by the way they are
printed. A variable may be renamed, and the name is still spelled with letters, digits, underscores
and dollar signs.
-/
namespace TemplateScript

open Scanner

theorem role_of_part {c : Char} (part : Identifier.isPart c = true) : role c = .plain := by
  have special : (['"', '(', ')', '[', ']', '\x7b', '\x7d'].any Identifier.isPart) = false := by
    decide
  have apart : c ∉ ['"', '(', ')', '[', ']', '\x7b', '\x7d'] :=
    fun member => List.any_eq_false.mp special c member part
  simp only [List.mem_cons, List.not_mem_nil, or_false, not_or] at apart
  simp [role, apart]

def isWord (name : String) : Bool :=
  name.toList.all Identifier.isPart

theorem word_inert {name : String} (word : isWord name = true) : isInert name = true := by
  simp only [isWord, isInert, List.all_eq_true, decide_eq_true_eq] at word ⊢
  exact fun c member => role_of_part (word c member)

theorem plain_identifier_word {name : String} (plain : Identifier.isPlain name = true) :
    isWord name = true := by
  unfold Identifier.isPlain at plain
  split at plain
  · cases plain
  · next first rest spelled =>
      simp only [Bool.and_eq_true] at plain
      simp [isWord, spelled, Identifier.isPart, plain]

theorem role_of_digit {n : Nat} {c : Char} (member : c ∈ Nat.toDigits 10 n) : role c = .plain := by
  have digit := Nat.isDigit_of_mem_toDigits (by decide) (by decide) member
  exact role_of_part (by simp [Identifier.isPart, digit])

theorem positional_all {kind : Char → Prop} (zero : kind '0') (dot : kind '.') {digits : List Char}
    (all : ∀ c ∈ digits, kind c) (point : Int) :
    ∀ c ∈ NumberStyle.positionalText digits point, kind c := by
  intro c member
  unfold NumberStyle.positionalText NumberStyle.zeros at member
  split at member
  · simp only [List.mem_append, List.mem_cons, List.not_mem_nil, or_false, List.mem_replicate]
      at member
    rcases member with ((rfl | rfl) | ⟨_, rfl⟩) | digit
    · exact zero
    · exact dot
    · exact zero
    · exact all c digit
  · split at member
    · simp only [List.mem_append, List.mem_replicate] at member
      rcases member with digit | ⟨_, rfl⟩
      · exact all c digit
      · exact zero
    · simp only [List.mem_append, List.mem_cons, List.not_mem_nil, or_false] at member
      rcases member with (whole | rfl) | fraction
      · exact all c (List.mem_of_mem_take whole)
      · exact dot
      · exact all c (List.mem_of_mem_drop fraction)

theorem with_sign_inert (negative : Bool) {text : List Char}
    (plain : ∀ c ∈ text, role c = .plain) :
    isInert (NumberStyle.withSign negative text) = true := by
  have minus : role '-' = .plain := by decide
  cases negative with
  | false => simpa [isInert, NumberStyle.withSign] using plain
  | true => simpa [isInert, NumberStyle.withSign, minus] using plain

theorem number_text_inert (value : Double) : isInert (value.text .plain) = true := by
  unfold Double.text
  split
  · decide
  · exact with_sign_inert _ (is_inert_iff.mp (by decide))
  · split
    · split
      · decide
      · decide
    · apply with_sign_inert
      simp only [NumberStyle.decimalText, NumberStyle.plain, if_true]
      exact positional_all (by decide) (by decide) (fun _ => role_of_digit) _

/-- A dollar sign followed by letters, digits and underscores. -/
def isPlainVariable (name : String) : Bool :=
  match name.toList with
  | first :: rest => first = '$' && rest.all fun c => c.isAlphanum || c = '_'
  | [] => false

theorem plain_variable_word {name : String} (plain : isPlainVariable name = true) :
    isWord name = true := by
  unfold isPlainVariable at plain
  split at plain
  · next first rest spelled =>
      simp only [Bool.and_eq_true, decide_eq_true_eq, List.all_eq_true, Bool.or_eq_true,
        Char.isAlphanum] at plain
      obtain ⟨rfl, letters⟩ := plain
      simp only [isWord, spelled, List.all_cons, Bool.and_eq_true, List.all_eq_true]
      refine ⟨by decide, fun c member => ?_⟩
      rcases letters c member with (letter | digit) | rfl
      · simp [Identifier.isPart, Identifier.isStart, letter]
      · simp [Identifier.isPart, digit]
      · decide
  · cases plain

theorem plain_variable_written {name : String} (plain : isPlainVariable name = true) :
    isVariable name = true := by
  unfold isPlainVariable at plain
  unfold isVariable
  cases spelled : name.toList with
  | nil =>
      rw [spelled] at plain
      cases plain
  | cons first rest =>
      rw [spelled] at plain
      simp only [Bool.and_eq_true, List.all_eq_true] at plain
      have free : '$' ∉ rest := fun member => absurd (plain.2 '$' member) (by decide)
      simp [plain.1, free]

theorem shadow_name_word {name : String} (word : isWord name = true) (depth : Nat) :
    isWord (Scope.shadowName name depth) = true := by
  simp only [isWord, Scope.shadow_name_spelling, List.all_append, List.all_cons, Bool.and_eq_true,
    List.all_eq_true] at word ⊢
  refine ⟨word, by decide, fun c member => ?_⟩
  have digit := Nat.isDigit_of_mem_toDigits (by decide) (by decide) member
  simp [Identifier.isPart, digit]

namespace Scope

/-- The block level binds plain variables only, and at every level such a variable is generated as a
word. -/
structure Plain (scope : Scope) : Prop where
  own : ∀ name, scope.level.binds name = true → isPlainVariable name = true
  words : ∀ level ∈ scope.levels, ∀ name, isPlainVariable name = true →
    isWord (level.generatedName name) = true

namespace Plain

theorem generated_unrenamed {level : Level} (renamed : level.renamed = []) {name : String}
    (named : isPlainVariable name = true) : isWord (level.generatedName name) = true := by
  simpa [Level.generatedName, renamed, NameMap.get?] using plain_variable_word named

theorem base (context : Ty) (functions : List (String × FunctionType)) :
    (Scope.base context functions).child.Plain where
  own := by simp [Scope.child]
  words := by
    intro level member name named
    have both : level = (Scope.base context functions).child.level ∨
        level = (Scope.base context functions).level := by
      simpa [levels, child, outer_base] using member
    rcases both with rfl | rfl
    · exact generated_unrenamed rfl named
    · exact generated_unrenamed (renamed_base context functions) named

theorem declare_local {scope : Scope} (plain : scope.Plain) {name : String}
    (named : isPlainVariable name = true) (ty : Ty) :
    (scope.declareLocal name ty).2.Plain where
  own := by
    intro key bound
    simp only [binds_declare_local, Bool.or_eq_true, decide_eq_true_eq] at bound
    rcases bound with rfl | earlier
    · exact named
    · exact plain.own key earlier
  words := by
    intro level member key keyNamed
    rcases List.mem_cons.mp member with rfl | outer
    · -- either the declaration renames this very variable, or its name is what it was
      have entry := renamed_declare_local key name ty scope
      unfold Level.generatedName
      rw [entry]
      split
      · next own => exact shadow_name_word (plain_variable_word named) _
      · exact plain.words scope.level (by simp [levels]) key keyNamed
    · exact plain.words level (by simpa [levels] using .inr outer) key keyNamed

theorem declared {scope : Scope} (plain : scope.Plain) {name : String}
    (named : isPlainVariable name = true) (ty : Ty) :
    isInert (scope.declareLocal name ty).1 = true := by
  have next := plain.declare_local named ty
  exact word_inert (next.words (scope.declareLocal name ty).2.level (by simp [levels]) name named)

theorem arm {scope child : Scope} {params : List String} (plain : scope.Plain)
    (arm : scope.Arm child params) (named : ∀ name ∈ params, isPlainVariable name = true) :
    child.Plain where
  own := fun name bound => named name ((arm.binds name).mp bound)
  words := by
    intro level member name nameNamed
    rw [levels, arm.outer] at member
    rcases List.mem_cons.mp member with rfl | outer
    · exact generated_unrenamed arm.renamed nameNamed
    · exact plain.words level outer name nameNamed

theorem lookup {scope : Scope} (plain : scope.Plain) {name generated : String} {ty : Ty}
    (named : isPlainVariable name = true)
    (found : Scope.lookup name scope.levels = some (generated, ty)) :
    isInert generated = true := by
  obtain ⟨level, member, here⟩ := List.exists_of_findSome?_eq_some found
  obtain ⟨_, _, same⟩ := Option.map_eq_some_iff.mp here
  obtain ⟨rfl, _⟩ := Prod.mk.inj same
  exact word_inert (plain.words level member name named)

theorem hoisted {scope : Scope} (plain : scope.Plain) (params : List String) :
    ∀ name ∈ scope.toFrame.hoisted params, isInert name = true := by
  intro generated member
  have listed := (List.mem_filter.mp member).1
  have present := (NameMap.mem_keys_iff generated scope.toFrame.locals).mp listed
  obtain ⟨name, bound, rfl⟩ := (has_to_frame generated scope.level).mp present
  exact word_inert (plain.words scope.level (by simp [levels]) name (plain.own name bound))

end Plain

end Scope

end TemplateScript
