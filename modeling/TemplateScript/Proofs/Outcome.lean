import TemplateScript.Checked.Pipeline

/-!
Two computations side by side.

Both succeed, with results in some relation, or both fail, for causes in some relation. A step that
keeps the relation can be put behind two computations that are in it, so that two runs of the
checker are compared step by step.
-/
namespace TemplateScript

inductive SameOutcome {ε α β : Type} (causes : ε → ε → Prop) (results : α → β → Prop) :
    Except ε α → Except ε β → Prop
  | ok {value : α} {other : β} : results value other →
      SameOutcome causes results (.ok value) (.ok other)
  | error {cause other : ε} : causes cause other →
      SameOutcome causes results (.error cause) (.error other)

namespace SameOutcome

variable {ε α β γ δ : Type} {causes : ε → ε → Prop} {results : α → β → Prop}
  {further : γ → δ → Prop} {left : Except ε α} {right : Except ε β}

theorem refl (same : ∀ cause, causes cause cause) (outcome : Except ε α) :
    SameOutcome causes Eq outcome outcome := by
  cases outcome with
  | ok value => exact .ok rfl
  | error cause => exact .error (same cause)

theorem bind {next : α → Except ε γ} {other : β → Except ε δ}
    (first : SameOutcome causes results left right)
    (step : ∀ value partner, results value partner →
      SameOutcome causes further (next value) (other partner)) :
    SameOutcome causes further (left >>= next) (right >>= other) := by
  cases first with
  | ok related => exact step _ _ related
  | error related => exact .error related

theorem map {f : α → γ} {g : β → δ} (first : SameOutcome causes results left right)
    (step : ∀ value partner, results value partner → further (f value) (g partner)) :
    SameOutcome causes further (left.map f) (right.map g) := by
  cases first with
  | ok related => exact .ok (step _ _ related)
  | error related => exact .error related

theorem succeeds (first : SameOutcome causes results left right) {value : α}
    (found : left = .ok value) : ∃ other, right = .ok other ∧ results value other := by
  cases first with
  | ok related =>
      rw [← Except.ok.inj found]
      exact ⟨_, rfl, related⟩
  | error related => cases found

/-- Tagging with a place keeps related causes related. -/
theorem located {kinds : TypeError → TypeError → Prop} {tagged : CheckError → CheckError → Prop}
    {left : Except TypeError α} {right : Except TypeError β} {pos otherPos : Offset}
    {render otherRender : Unit → String} (first : SameOutcome kinds results left right)
    (tag : ∀ kind other, kinds kind other →
      tagged ⟨kind, pos, render ()⟩ ⟨other, otherPos, otherRender ()⟩) :
    SameOutcome tagged results (located pos render left) (located otherPos otherRender right) := by
  cases first with
  | ok related => exact .ok related
  | error related => exact .error (tag _ _ related)

end SameOutcome

end TemplateScript
