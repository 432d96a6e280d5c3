import TemplateScript.Proofs.Bundle.History
import TemplateScript.Proofs.Checked.Linking

/-!
The template that a bundle renders when it is called.

Options may name it. Where they do not, it is the last template in the order of the bundle, and a
template that is added again keeps its earlier place in this order. So it is the template whose name
was the last to come new, and that of the last call only if no other name came new after its own.
-/
namespace TemplateScript.Bundle

/-- The last name to come new: it has not been added before, and all that is added after it replaces
a template. -/
def IsNewest (history : List Addition) (name : String) : Prop :=
  ∃ before newest later, history = before ++ newest :: later ∧ newest.name = name ∧
    name ∉ firstNames before ∧ ∀ other ∈ later, other.name ∈ firstNames (before ++ [newest])

theorem first_names_replacing {history later : List Addition}
    (known : ∀ other ∈ later, other.name ∈ firstNames history) :
    firstNames (history ++ later) = firstNames history := by
  induction later using List.reverseRecOn with
  | nil => rw [List.append_nil]
  | append_singleton later addition ih =>
      have earlier := ih fun other member => known other (by simp [member])
      rw [← List.append_assoc, first_names_known, earlier]
      rw [earlier]
      exact known addition (by simp)

theorem last_first_name_iff {history : List Addition} {name : String} :
    (firstNames history).getLast? = some name ↔ IsNewest history name := by
  constructor
  · intro last
    induction history using List.reverseRecOn with
    | nil => simp [firstNames] at last
    | append_singleton history addition ih =>
        by_cases known : addition.name ∈ firstNames history
        · rw [first_names_known known] at last
          obtain ⟨before, newest, later, rfl, own, new, replacing⟩ := ih last
          refine ⟨before, newest, later ++ [addition], by simp, own, new, ?_⟩
          have names : firstNames (before ++ [newest] ++ later) = firstNames (before ++ [newest]) :=
            first_names_replacing replacing
          intro other member
          rcases List.mem_append.mp member with earlier | here
          · exact replacing other earlier
          · rw [List.mem_singleton.mp here, ← names]
            simpa using known
        · rw [first_names_new known, List.getLast?_concat] at last
          refine ⟨history, addition, [], rfl, Option.some.inj last, ?_, by simp⟩
          rw [← Option.some.inj last]
          exact known
  · intro newest
    obtain ⟨before, newest, later, rfl, rfl, new, replacing⟩ := newest
    rw [List.append_cons, first_names_replacing replacing, first_names_new new,
      List.getLast?_concat]

/-- The script up to the entry function: the prelude and the templates. -/
def opening (prelude : PreludeMode) (templates : List CheckedTemplate) : String :=
  "(function()\x7bvar __rt=" ++ preludeText prelude ++ ",__tmpls=\x7b\x7d,__g;\n" ++
    versionGuard prelude ++ String.join (templates.map definition)

def entryFunction (name : String) : String :=
  "var __entry=function(ctx,funcs)\x7b__g=__rt.globals(funcs);return __tmpls[" ++
    Literal.script name ++ "](ctx);\x7d;\n"

def closing (names : List String) : String :=
  "__entry.render=function(name,ctx,funcs)\x7b__g=__rt.globals(funcs);" ++
    "return __rt.include(__tmpls,name,ctx);\x7d;\n" ++
    "__entry.templates=[" ++ ",".intercalate (names.map Literal.script) ++ "];\n" ++
    "return __entry;\x7d)()"

theorem assemble_eq (prelude : PreludeMode) (entry : String) (names : List String)
    (templates : List CheckedTemplate) :
    assemble prelude entry names templates =
      opening prelude templates ++ entryFunction entry ++ closing names := by
  unfold assemble opening entryFunction closing
  simp only [String.append_assoc]

theorem entry_name_default {bundle : Bundle} {name : String} (unset : bundle.options.entry = none)
    (entered : bundle.entryName = .ok name) : bundle.names.getLast? = some name := by
  simp only [entryName, unset] at entered
  cases last : bundle.names.getLast? with
  | none =>
      rw [last] at entered
      cases entered
  | some own =>
      simp only [last, ok_bind] at entered
      split at entered
      · rw [pure_ok_iff.mp entered]
      · cases entered

/-- Without an entry in the options, the entry function renders the template with the one name that
came new last. So it renders the template of the last call exactly if no other name came new after
that one's. -/
theorem default_entry_newest {options : Options} {history : List Addition} {root : Shape}
    {script : String} (unset : options.entry = none)
    (compiled : (after options history).compile root = .ok script) :
    ∃ name templates, (∀ other, IsNewest history other ↔ other = name) ∧
      (after options history).checkAll root = .ok templates ∧
      script =
        opening options.prelude templates ++ entryFunction name ++
          closing (firstNames history) := by
  obtain ⟨name, templates, entered, checked, rfl⟩ := compile_entered compiled
  have last := entry_name_default (by rw [after_eq]; exact unset) entered
  rw [names_after] at last
  refine ⟨name, templates, ?_, checked, ?_⟩
  · intro other
    rw [← last_first_name_iff, last, Option.some.injEq, eq_comm]
  · rw [assemble_eq, names_after, after_eq]

def textTemplate (name content : String) : Tree :=
  ⟨name, "", ⟨0, [.text 0 content]⟩⟩

def linkedOptions : Options :=
  Options.default.linked "rt"

def refinedHistory : List Addition :=
  [.plain (textTemplate "a" "one"), .typed (textTemplate "b" "two") .string,
    .plain (textTemplate "b" "three")]

theorem refined_template_entered :
    ∃ script templates, (after linkedOptions refinedHistory).compile .string = .ok script ∧
      script = opening (.linked "rt") templates ++ entryFunction "b" ++ closing ["a", "b"] := by
  have succeeds :
      ((after linkedOptions refinedHistory).compile .string).toOption.isSome = true := by
    decide +kernel
  obtain ⟨script, compiled⟩ := ok_of_to_option succeeds
  obtain ⟨name, templates, newest, _, assembled⟩ := default_entry_newest rfl compiled
  have second : IsNewest refinedHistory "b" :=
    ⟨[.plain (textTemplate "a" "one")], .typed (textTemplate "b" "two") .string,
      [.plain (textTemplate "b" "three")], rfl, rfl, by decide +kernel, by decide +kernel⟩
  rw [← (newest "b").mp second] at assembled
  exact ⟨script, templates, compiled, assembled⟩

def revisedHistory : List Addition :=
  [.plain (textTemplate "a" "one"), .plain (textTemplate "b" "two"),
    .plain (textTemplate "a" "three")]

/-- The entry function renders the second template, and not that of the last call. -/
theorem revised_template_not_entered :
    linkedOptions.entry = none ∧ revisedHistory.getLast?.map Addition.name = some "a" ∧
      ∃ script, (after linkedOptions revisedHistory).compile .string = .ok script ∧
        (∃ front, script = front ++ entryFunction "b" ++ closing ["a", "b"]) ∧
        ∀ front, script ≠ front ++ entryFunction "a" ++ closing ["a", "b"] := by
  have succeeds :
      ((after linkedOptions revisedHistory).compile .string).toOption.isSome = true := by
    decide +kernel
  obtain ⟨script, compiled⟩ := ok_of_to_option succeeds
  obtain ⟨entry, templates, entered, _, rfl⟩ := compile_entered compiled
  have second : entry = "b" := (Except.ok.inj entered).symm
  subst second
  refine ⟨rfl, rfl, _, compiled, ⟨_, assemble_eq _ _ _ _⟩, ?_⟩
  intro front same
  rw [assemble_eq] at same
  -- both functions have the same length, so they would have to be equal
  have functions : (entryFunction "b").toList = (entryFunction "a").toList := by
    have texts := congrArg String.toList same
    simp only [String.toList_append] at texts
    exact List.append_inj_right' (List.append_cancel_right texts) (by decide +kernel)
  exact absurd functions (by decide +kernel)

end TemplateScript.Bundle
