import TemplateScript.Proofs.Checked.Inversion
import TemplateScript.Proofs.Template.Naming

/-!
What every checked expression has because its parts have it.

Pipelines are made of constants, the dot and variables, of which members are read and to which
functions are applied. Whatever holds of the former, and of the results of the latter if it holds of
what they are made of, holds of everything that a pipeline is checked to.
-/
namespace TemplateScript

structure Composed (names : String → Bool) (scope : Scope) (holds : Expr → Prop) : Prop where
  number : ∀ {literal : String} {value : Double}, Constant.read? literal = some value →
    holds (.ofConstant (.number value))
  bool : ∀ value, holds (.ofConstant (.bool value))
  string : ∀ text, holds (.ofConstant (.string text))
  context : holds (.context scope.context)
  slot : ∀ {var name : String} {ty : Ty}, names var = true →
    Scope.lookup var scope.levels = some (name, ty) → holds (.slot name ty)
  member : ∀ {subject found : Expr} {ident : String} {args : List Expr}, holds subject →
    (∀ arg ∈ args, holds arg) → readMember subject ident args = .ok found → holds found
  call : ∀ {ident : String} {args : List Expr} {found : Expr}, (∀ arg ∈ args, holds arg) →
    callFunction scope ident args = .ok found → holds found

namespace Composed

variable {names : String → Bool} {scope : Scope} {holds : Expr → Prop}

theorem chain (composed : Composed names scope holds) {args : List Expr}
    (argsHold : ∀ arg ∈ args, holds arg) {idents : List String} {subject found : Expr}
    (subjectHolds : holds subject) (read : readChain subject args idents = .ok found) :
    holds found := by
  induction idents generalizing subject with
  | nil => rwa [← Except.ok.inj read]
  | cons ident rest ih =>
      cases rest with
      | nil => exact composed.member subjectHolds argsHold read
      | cons next rest =>
          obtain ⟨member, first, further⟩ := bind_ok_iff.mp read
          exact ih (composed.member subjectHolds (by simp) first) further

theorem reading (composed : Composed names scope holds) {reading : Variable} {args : List Expr}
    {found : Expr} (named : reading.named names = true) (argsHold : ∀ arg ∈ args, holds arg)
    (read : readVariable scope reading.ident args = .ok found) : holds found := by
  obtain ⟨first, rest, name, ty, spelled, entry, _, chained⟩ := read_variable_ok read
  have firstNamed : names first = true := by simpa [Variable.named, spelled] using named
  exact composed.chain argsHold (composed.slot firstNamed entry) chained

theorem head (composed : Composed names scope holds) {head : Arg} {args : List Expr} {found : Expr}
    {value : Unit → Except CheckError Expr} (named : head.named names = true)
    (argsHold : ∀ arg ∈ args, holds arg) (valueHolds : ∀ own, value () = .ok own → holds own)
    (checked : checkHead scope head args value = .ok found) : holds found := by
  cases head with
  | identifier pos ident =>
      simp only [checkHead, located_ok_iff] at checked
      exact composed.call argsHold checked
  | field pos ident =>
      simp only [checkHead, located_ok_iff] at checked
      exact composed.chain argsHold composed.context checked
  | var reading =>
      simp only [checkHead, located_ok_iff] at checked
      exact composed.reading named argsHold checked
  | _ => exact valueHolds found (check_head_value_ok (by simp) checked).2

mutual

theorem arg (composed : Composed names scope holds) : (arg : Arg) → {found : Expr} →
    arg.named names = true → checkArg scope arg = .ok found → holds found
  | .number pos literal, found, _, checked => by
      simp only [checkArg, located_ok_iff] at checked
      obtain ⟨value, known, rfl⟩ := number_constant_ok checked
      exact composed.number known
  | .string pos content, found, _, checked => by
      rw [← Except.ok.inj checked]
      exact composed.string content
  | .bool pos value, found, _, checked => by
      rw [← Except.ok.inj checked]
      exact composed.bool value
  | .dot pos, found, _, checked => by
      rw [← Except.ok.inj checked]
      exact composed.context
  | .field pos ident, found, _, checked => by
      simp only [checkArg, located_ok_iff] at checked
      exact composed.chain (by simp) composed.context checked
  | .identifier pos ident, found, _, checked => by
      simp only [checkArg, located_ok_iff] at checked
      exact composed.call (by simp) checked
  | .var reading, found, named, checked => by
      simp only [checkArg, located_ok_iff] at checked
      exact composed.reading named (by simp) checked
  | .pipe inner, found, named, checked => by
      simp only [checkArg] at checked
      split at checked
      · exact composed.pipe inner named checked
      · cases checked

theorem args (composed : Composed names scope holds) : (args : List Arg) → {found : List Expr} →
    Arg.namedAll names args = true → checkArgs scope args = .ok found → ∀ arg ∈ found, holds arg
  | [], found, _, checked => by simp [← Except.ok.inj checked]
  | arg :: rest, found, named, checked => by
      simp only [Arg.namedAll, Bool.and_eq_true] at named
      obtain ⟨first, others, firstChecked, othersChecked, rfl⟩ := check_args_ok checked
      have firstHolds := composed.arg arg named.1 firstChecked
      have othersHold := composed.args rest named.2 othersChecked
      simpa using ⟨firstHolds, othersHold⟩

theorem command (composed : Composed names scope holds) {whole : Pipe} {piped : Option Expr}
    (pipedHolds : ∀ value ∈ piped, holds value) : (command : Command) → {found : Expr} →
    command.named names = true → checkCommand scope whole piped command = .ok found → holds found
  | ⟨pos, []⟩, found, _, checked => by cases checked
  | ⟨pos, head :: rest⟩, found, named, checked => by
      simp only [Command.named, Arg.namedAll, Bool.and_eq_true] at named
      obtain ⟨_, _, args, same, argsChecked, headChecked⟩ := check_command_ok checked
      obtain ⟨rfl, rfl⟩ := List.cons.inj same
      have argsHold := composed.args rest named.2 argsChecked
      refine composed.head named.1 ?_ (fun own => composed.arg head named.1) headChecked
      intro arg member
      rcases List.mem_append.mp member with explicit | last
      · exact argsHold arg explicit
      · exact pipedHolds arg (by simpa using last)

theorem commands (composed : Composed names scope holds) {whole : Pipe} :
    (commands : List Command) → {piped found : Option Expr} → (∀ value ∈ piped, holds value) →
    Command.namedAll names commands = true →
    checkCommands scope whole piped commands = .ok found → ∀ value ∈ found, holds value
  | [], piped, found, pipedHolds, _, checked => by rwa [← Except.ok.inj checked]
  | command :: rest, piped, found, pipedHolds, named, checked => by
      simp only [Command.namedAll, Bool.and_eq_true] at named
      obtain ⟨value, first, further⟩ := bind_ok_iff.mp checked
      have valueHolds := composed.command pipedHolds command named.1 first
      exact composed.commands rest (by simpa using valueHolds) named.2 further

theorem pipe (composed : Composed names scope holds) : (pipe : Pipe) → {found : Expr} →
    pipe.named names = true → checkPipe scope pipe = .ok found → holds found
  | ⟨pos, assigns, targets, commands⟩, found, named, checked => by
      simp only [Pipe.named, Bool.and_eq_true] at named
      exact composed.commands commands (by simp) named.2 (check_pipe_ok checked) found rfl

end

end Composed

end TemplateScript
