import Mathlib.Data.List.Basic
import TemplateScript.Scope.Basic

/-!
Names of variables, and how generated names differ from them.

A template writes a variable as a dollar sign and a text without one. A generated name has a second
dollar sign in front of the depth, so it is no name a template can write, and the variable and the
depth can be read back from it.
-/
namespace TemplateScript

/-- A dollar sign followed by a text that has none. -/
def isVariable (name : String) : Bool :=
  match name.toList with
  | first :: rest => first = '$' && !rest.contains '$'
  | [] => false

/-- All that is asked of a name where only functions must be kept apart. -/
def startsWithDollar (name : String) : Bool :=
  name.toList.head? = some '$'

theorem variable_spelling {name : String} (written : isVariable name = true) :
    ∃ rest, name.toList = '$' :: rest ∧ '$' ∉ rest := by
  unfold isVariable at written
  split at written
  · next first rest spelled =>
      simp only [Bool.and_eq_true, decide_eq_true_eq, Bool.not_eq_true', List.contains_eq_mem,
        decide_eq_false_iff_not] at written
      exact ⟨rest, by rw [spelled, written.1], written.2⟩
  · simp at written

theorem variable_starts_with_dollar {name : String} (written : isVariable name = true) :
    startsWithDollar name = true := by
  obtain ⟨rest, spelled, _⟩ := variable_spelling written
  simp [startsWithDollar, spelled]

theorem function_key_spelling (ident : String) :
    (functionKey ident).toList = functionMark :: ident.toList := by
  simp [functionKey]

theorem function_key_injective {left right : String}
    (same : functionKey left = functionKey right) : left = right := by
  have spelled := congrArg String.toList same
  rw [function_key_spelling, function_key_spelling] at spelled
  exact String.toList_injective (List.cons.inj spelled).2

theorem function_key_no_dollar (ident : String) : startsWithDollar (functionKey ident) = false := by
  simp [startsWithDollar, function_key_spelling, functionMark]

theorem dollar_ne_function_key {name : String} (dollar : startsWithDollar name = true)
    (ident : String) : name ≠ functionKey ident := by
  intro same
  subst same
  simp [function_key_no_dollar] at dollar

namespace Scope

theorem shadow_name_spelling (name : String) (depth : Nat) :
    (shadowName name depth).toList = name.toList ++ '$' :: Nat.toDigits 10 depth := by
  simp [shadowName]

private theorem digits_have_no_dollar (depth : Nat) : '$' ∉ Nat.toDigits 10 depth := by
  intro member
  have digit := Nat.isDigit_of_mem_toDigits (by decide) (by decide) member
  simp at digit

/-- No template can write the generated name of a variable. -/
theorem shadow_name_not_variable {name : String} (written : isVariable name = true)
    (depth : Nat) : isVariable (shadowName name depth) = false := by
  obtain ⟨rest, spelled, _⟩ := variable_spelling written
  simp [isVariable, shadow_name_spelling, spelled]

theorem shadow_name_starts_with_dollar {name : String} (written : isVariable name = true)
    (depth : Nat) : startsWithDollar (shadowName name depth) = true := by
  obtain ⟨rest, spelled, _⟩ := variable_spelling written
  simp [startsWithDollar, shadow_name_spelling, spelled]

/-- The second dollar sign is the one in front of the depth, so both parts can be read back. -/
theorem shadow_name_injective {left right : String} {depth other : Nat}
    (leftWritten : isVariable left = true) (rightWritten : isVariable right = true)
    (same : shadowName left depth = shadowName right other) : left = right ∧ depth = other := by
  obtain ⟨leftRest, leftSpelled, leftFree⟩ := variable_spelling leftWritten
  obtain ⟨rightRest, rightSpelled, rightFree⟩ := variable_spelling rightWritten
  have spelled := congrArg String.toList same
  rw [shadow_name_spelling, shadow_name_spelling, leftSpelled, rightSpelled] at spelled
  have tails := (List.cons.inj spelled).2
  have parts := (List.append_cons_inj_of_notMem leftFree (digits_have_no_dollar depth)).mp tails
  constructor
  · apply String.toList_injective
    rw [leftSpelled, rightSpelled, parts.1]
  · rw [← Nat.ofDigitChars_ten_toDigits (n := depth), parts.2.2, Nat.ofDigitChars_ten_toDigits]

end Scope

end TemplateScript
