import TemplateScript.Proofs.Scope.Hoisting

/-!
Generated names are free of capture.

A run opens and closes levels, binds parameters and variables, and asks for variables, in any order
that the borrowing of scopes allows. Parameters are bound before anything else happens at their
level. A generated name that the run is given at some moment is looked at in the frames that the
open levels end up with: reading them from the innermost level outward, the first one that has the
name belongs to the level that bound the variable at that moment.
-/
namespace TemplateScript.Scope

inductive Operation
  | child
  /-- Completes the innermost level and goes back to the enclosing one. -/
  | close
  | declare (name : String) (ty : Ty)
  | declareLocal (name : String) (ty : Ty)
  | read (name : String)

/-- A scope in the course of a run. It is fresh as long as nothing but parameters was bound at the
innermost level since that was opened. -/
structure Moment where
  scope : Scope
  fresh : Bool

namespace Moment

def start (context : Ty) (functions : List (String × FunctionType)) : Moment :=
  ⟨(base context functions).child, true⟩

def perform (now : Moment) : Operation → Option Moment
  | .child => some ⟨now.scope.child, true⟩
  | .close => now.scope.parent?.map fun scope => ⟨scope, false⟩
  | .declare name ty =>
      if now.fresh && isVariable name then some ⟨now.scope.declare name ty, true⟩ else none
  | .declareLocal name ty =>
      if isVariable name then some ⟨(now.scope.declareLocal name ty).2, false⟩ else none
  | .read name => if isVariable name then some ⟨now.scope, false⟩ else none

def run (now : Moment) : List Operation → Option Moment
  | [] => some now
  | operation :: rest => (now.perform operation).bind fun next => next.run rest

/-- The variable that an operation is about and the generated name that it is answered with. -/
def answer? (now : Moment) : Operation → Option (String × String)
  | .declareLocal name ty => some (name, (now.scope.declareLocal name ty).1)
  | .read name => (now.scope.fieldNamed name).toOption.map fun found => (name, found.1)
  | _ => none

/-- The frames that the levels open now end up with, innermost first: those of levels that the
rest of the run closes as they are closed, and the others as they are at its end. -/
def finalFrames (now : Moment) : List Operation → List Frame
  | [] => now.scope.levels.map Level.toFrame
  | operation :: rest =>
      match now.perform operation with
      | none => now.scope.levels.map Level.toFrame
      | some next =>
          match operation with
          | .child => (next.finalFrames rest).tail
          | .close => now.scope.toFrame :: next.finalFrames rest
          | _ => next.finalFrames rest

/-- What an operation leaves behind is one of these; all but the last keep the enclosing levels. -/
theorem perform_cases {now next : Moment} {operation : Operation}
    (performed : now.perform operation = some next) :
    (operation = .child ∧ next = ⟨now.scope.child, true⟩) ∨
      (operation = .close ∧ now.scope.outer = next.scope.levels ∧ next.fresh = false) ∨
      (∃ name ty, operation = .declare name ty ∧ isVariable name = true ∧ now.fresh = true ∧
        next = ⟨now.scope.declare name ty, true⟩) ∨
      (∃ name ty, operation = .declareLocal name ty ∧ isVariable name = true ∧
        next = ⟨(now.scope.declareLocal name ty).2, false⟩) ∨
      ∃ name, operation = .read name ∧ isVariable name = true ∧ next = ⟨now.scope, false⟩ := by
  cases operation with
  | child => exact .inl ⟨rfl, (Option.some.inj performed).symm⟩
  | close =>
      obtain ⟨parent, found, rfl⟩ := Option.map_eq_some_iff.mp performed
      refine .inr (.inl ⟨rfl, ?_, rfl⟩)
      unfold parent? at found
      split at found
      · cases found
      · next outer => rw [outer, ← Option.some.inj found]; rfl
  | declare name ty =>
      simp only [perform, Bool.and_eq_true, Option.ite_none_right_eq_some, Option.some.injEq]
        at performed
      exact .inr (.inr (.inl ⟨name, ty, rfl, performed.1.2, performed.1.1, performed.2.symm⟩))
  | declareLocal name ty =>
      simp only [perform, Option.ite_none_right_eq_some, Option.some.injEq] at performed
      exact .inr (.inr (.inr (.inl ⟨name, ty, rfl, performed.1, performed.2.symm⟩)))
  | read name =>
      simp only [perform, Option.ite_none_right_eq_some, Option.some.injEq] at performed
      exact .inr (.inr (.inr (.inr ⟨name, rfl, performed.1, performed.2.symm⟩)))

theorem perform_regular {now next : Moment} {operation : Operation}
    (performed : now.perform operation = some next) (regular : Regular now.scope.levels) :
    Regular next.scope.levels := by
  rcases perform_cases performed with ⟨_, rfl⟩ | ⟨_, outer, _⟩ | ⟨name, ty, _, written, _, rfl⟩ |
    ⟨name, ty, _, written, rfl⟩ | ⟨name, _, _, rfl⟩
  · exact ⟨Level.Regular.empty _ _, regular⟩
  · rw [← outer]
    exact regular.2
  · exact ⟨regular.1.bind written ty, regular.2⟩
  · exact ⟨regular_declare_local written ty regular.1, regular.2⟩
  · exact regular

theorem run_regular {now last : Moment} {operations : List Operation}
    (ran : now.run operations = some last) (regular : Regular now.scope.levels) :
    Regular last.scope.levels := by
  induction operations generalizing now with
  | nil => rwa [← Option.some.inj ran]
  | cons operation rest ih =>
      obtain ⟨next, performed, continued⟩ := Option.bind_eq_some_iff.mp ran
      exact ih continued (perform_regular performed regular)

theorem frames_cover {levels : List Level} (regular : Regular levels) :
    CoversAll levels ((levels.map Level.toFrame).map Frame.has) := by
  induction levels with
  | nil => exact trivial
  | cons level outer ih => exact ⟨frame_covers regular.1, ih regular.2⟩

/-- The frames in the end cover the levels now. A fresh level is left out: until its parameters are
bound, nothing was read in it. -/
theorem final_frames_cover {now last : Moment} {operations : List Operation}
    (ran : now.run operations = some last) (regular : Regular now.scope.levels) :
    ∃ own others, now.finalFrames operations = own :: others ∧
      CoversAll now.scope.outer (others.map Frame.has) ∧
      (now.fresh = false → now.scope.level.Covers now.scope.outer own.has) := by
  induction operations generalizing now with
  | nil =>
      have covers := frames_cover regular
      exact ⟨_, _, rfl, covers.2, fun _ => covers.1⟩
  | cons operation rest ih =>
      obtain ⟨next, performed, continued⟩ := Option.bind_eq_some_iff.mp ran
      obtain ⟨own, others, frames, outerCovers, ownCovers⟩ :=
        ih continued (perform_regular performed regular)
      rcases perform_cases performed with ⟨rfl, rfl⟩ | ⟨rfl, outer, stale⟩ |
        ⟨name, ty, rfl, _, fresh, rfl⟩ | ⟨name, ty, rfl, _, rfl⟩ | ⟨name, rfl, _, rfl⟩
      · cases others with
        | nil => exact outerCovers.elim
        | cons first others =>
            refine ⟨first, others, ?_, outerCovers.2, fun _ => outerCovers.1⟩
            simp [finalFrames, performed, frames]
      · refine ⟨now.scope.toFrame, own :: others, ?_, ?_, fun _ => frame_covers regular.1⟩
        · simp [finalFrames, performed, frames]
        · rw [outer]
          exact ⟨ownCovers stale, outerCovers⟩
      · refine ⟨own, others, ?_, outerCovers, fun stale => ?_⟩
        · simp [finalFrames, performed, frames]
        · simp [fresh] at stale
      · refine ⟨own, others, ?_, outerCovers, fun _ => (ownCovers rfl).before_declare_local⟩
        simp [finalFrames, performed, frames]
      · refine ⟨own, others, ?_, outerCovers, fun _ => ownCovers rfl⟩
        simp [finalFrames, performed, frames]

/-- An answered name is what a lookup gives right after the operation, at a level that is no longer
fresh. -/
theorem answer_lookup {here now : Moment} {operation : Operation} {name generated : String}
    (performed : here.perform operation = some now)
    (answered : here.answer? operation = some (name, generated)) :
    isVariable name = true ∧ now.fresh = false ∧
      ∃ ty, lookup name now.scope.levels = some (generated, ty) := by
  rcases perform_cases performed with ⟨rfl, _⟩ | ⟨rfl, _⟩ | ⟨_, _, rfl, _⟩ |
    ⟨declared, ty, rfl, written, rfl⟩ | ⟨asked, rfl, written, rfl⟩
  · cases answered
  · cases answered
  · cases answered
  · simp only [answer?, Option.some.injEq, Prod.mk.injEq] at answered
    obtain ⟨rfl, rfl⟩ := answered
    exact ⟨written, rfl, ty, lookup_bound _ (by simp)⟩
  · simp only [answer?, Option.map_eq_some_iff, Prod.mk.injEq] at answered
    obtain ⟨⟨found, ty⟩, entry, rfl, rfl⟩ := answered
    refine ⟨written, rfl, ty, field_named_lookup ?_⟩
    cases answer : here.scope.fieldNamed asked with
    | ok value =>
        rw [answer] at entry
        exact congrArg _ (Option.some.inj entry)
    | error => rw [answer] at entry; cases entry

end Moment

open Moment

/-- Whatever the run did before and does afterwards, the first of the final frames with the answered
name is at the innermost level that bound the variable when it was answered. -/
theorem answered_name_not_captured (context : Ty) (functions : List (String × FunctionType))
    (before after : List Operation) (operation : Operation) (here now last : Moment)
    (name generated : String)
    (reached : (start context functions).run before = some here)
    (performed : here.perform operation = some now)
    (answered : here.answer? operation = some (name, generated))
    (continued : now.run after = some last) :
    ∃ index, now.scope.levels.findIdx? (Level.binds name) = some index ∧
      (now.finalFrames after).findIdx?
        (fun frame => NameMap.contains generated frame.locals) = some index := by
  have startRegular : Regular (start context functions).scope.levels :=
    ⟨Level.Regular.empty _ _, regular_base context functions⟩
  have regular := perform_regular performed (run_regular reached startRegular)
  obtain ⟨written, stale, ty, found⟩ := answer_lookup performed answered
  obtain ⟨own, others, frames, outerCovers, ownCovers⟩ := final_frames_cover continued regular
  have covers : CoversAll now.scope.levels ((own :: others).map Frame.has) :=
    ⟨ownCovers stale, outerCovers⟩
  obtain ⟨index, atLevel, atFrame⟩ := covers.resolves regular written found
  refine ⟨index, atLevel, ?_⟩
  rw [frames]
  rwa [List.findIdx?_map] at atFrame

/-- A variable read inside a block that declares it again later. -/
theorem name_read_before_redeclaration_not_captured :
    let here : Moment := ⟨((start .string []).scope.declareLocal "$x" .string).2.child, true⟩
    let now : Moment := ⟨here.scope, false⟩
    here.answer? (.read "$x") = some ("$x", "$x") ∧
      ∃ index, now.scope.levels.findIdx? (Level.binds "$x") = some index ∧
        (now.finalFrames [.declareLocal "$x" .number, .close]).findIdx?
          (fun frame => NameMap.contains "$x" frame.locals) = some index := by
  intro here now
  have answered : here.answer? (.read "$x") = some ("$x", "$x") := by decide +kernel
  exact ⟨answered, answered_name_not_captured .string []
    [.declareLocal "$x" .string, .child] [.declareLocal "$x" .number, .close] (.read "$x")
    here now _ "$x" "$x" rfl rfl answered rfl⟩

end TemplateScript.Scope
