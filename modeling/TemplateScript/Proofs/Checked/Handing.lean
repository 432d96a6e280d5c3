import TemplateScript.Proofs.Checked.Inversion
import TemplateScript.Proofs.Scope.Levels

/-!
What the commands of a pipeline are handed.

A command is handed its own arguments and, after them, the value of the command before it. A head
that is handed anything makes a call with exactly that, or the pipeline is refused. One head
escapes: a field without names stands for the dot, and lets go of whatever it is handed.
-/
namespace TemplateScript

/-- The call that a head makes with what it is handed. The arguments belong to the last name of a
chain; the names before it are read without any. -/
inductive Arg.Calls (scope : Scope) (handed : List Expr) : Arg → Expr → Prop
  | function {pos : Offset} {ident generated : String} {params : List Ty} {ret : Ty} :
      Scope.lookup (functionKey ident) scope.levels =
        some (generated, .function params (some ret)) →
      Calls scope handed (.identifier pos ident) (.method (.globals scope.globals) ident handed ret)
  | member {pos : Offset} {front : List String} {last name : String} {subject : Expr}
      {params : List Ty} {ret : Ty} :
      readChain (.context scope.context) [] front = .ok subject →
      subject.ty.fieldNamed last = .ok (name, .function params (some ret)) →
      Calls scope handed (.field pos (front ++ [last])) (.method subject name handed ret)
  | reading {pos : Offset} {first generated last name : String} {front : List String} {ty : Ty}
      {subject : Expr} {params : List Ty} {ret : Ty} :
      Scope.lookup first scope.levels = some (generated, ty) →
      readChain (.slot generated ty) [] front = .ok subject →
      subject.ty.fieldNamed last = .ok (name, .function params (some ret)) →
      Calls scope handed (.var ⟨pos, first :: (front ++ [last])⟩) (.method subject name handed ret)

def Arg.isBareField : Arg → Bool
  | .field _ [] => true
  | _ => false

theorem Arg.Calls.not_bare {scope : Scope} {handed : List Expr} {head : Arg} {found : Expr}
    (calls : head.Calls scope handed found) : head.isBareField = false := by
  cases calls with
  | function => rfl
  | @member pos front => cases front <;> rfl
  | reading => rfl

theorem Arg.Calls.method {scope : Scope} {handed : List Expr} {head : Arg} {found : Expr}
    (calls : head.Calls scope handed found) :
    ∃ subject name ret, found = .method subject name handed ret := by
  cases calls <;> exact ⟨_, _, _, rfl⟩

theorem read_chain_cons_plain (subject : Expr) (ident : String) (rest : List String) :
    readChain subject [] (ident :: rest) =
      readMember subject ident [] >>= fun member => readChain member [] rest := by
  cases rest with
  | nil =>
      change readMember subject ident [] = _
      cases readMember subject ident [] <;> rfl
  | cons next rest => rfl

theorem read_chain_last (subject : Expr) (args : List Expr) (front : List String) (last : String) :
    readChain subject args (front ++ [last]) =
      readChain subject [] front >>= fun member => readMember member last args := by
  induction front generalizing subject with
  | nil => rfl
  | cons ident rest ih =>
      have step : readChain subject args (ident :: (rest ++ [last])) =
          readMember subject ident [] >>= fun member => readChain member args (rest ++ [last]) := by
        cases rest <;> rfl
      rw [List.cons_append, step, read_chain_cons_plain]
      cases readMember subject ident [] with
      | error cause => rfl
      | ok member => exact ih member

theorem chain_calls {subject found : Expr} {handed : List Expr} {front : List String}
    {last : String} (passed : handed ≠ [])
    (read : readChain subject handed (front ++ [last]) = .ok found) :
    ∃ member name params ret, readChain subject [] front = .ok member ∧
      member.ty.fieldNamed last = .ok (name, .function params (some ret)) ∧
      found = .method member name handed ret := by
  rw [read_chain_last] at read
  obtain ⟨member, prior, final⟩ := bind_ok_iff.mp read
  obtain ⟨name, ty, named, ⟨params, ret, rfl, rfl⟩ | ⟨_, empty, _⟩⟩ := read_member_ok final
  · exact ⟨member, name, params, ret, prior, named, rfl⟩
  · exact absurd empty passed

/-- A chain that can be read ends in a function or in a member that takes nothing. -/
theorem chain_calls_or_refuses {subject alone : Expr} {handed : List Expr} {front : List String}
    {last : String} (passed : handed ≠ [])
    (read : readChain subject [] (front ++ [last]) = .ok alone) :
    (∃ member name params ret, readChain subject [] front = .ok member ∧
        member.ty.fieldNamed last = .ok (name, .function params (some ret)) ∧
        alone = .method member name [] ret) ∨
      ∃ ty, readChain subject handed (front ++ [last]) = .error (.notCallable last ty) := by
  rw [read_chain_last] at read ⊢
  obtain ⟨member, prior, final⟩ := bind_ok_iff.mp read
  obtain ⟨name, ty, named, ⟨params, ret, rfl, rfl⟩ | ⟨plain, _, rfl⟩⟩ := read_member_ok final
  · exact .inl ⟨member, name, params, ret, prior, named, rfl⟩
  · refine .inr ⟨ty, ?_⟩
    rw [prior]
    change readMember member last handed = _
    have some : handed.isEmpty = false := by simpa using passed
    -- the member is no function, and no other one takes arguments
    cases ty with
    | function params ret => exact absurd rfl (plain params ret)
    | _ => simp [readMember, named, some]

theorem check_head_calls {scope : Scope} {head : Arg} {handed : List Expr} {found : Expr}
    {value : Unit → Except CheckError Expr} (passed : handed ≠ [])
    (named : head.isBareField = false) (checked : checkHead scope head handed value = .ok found) :
    head.Calls scope handed found := by
  cases head with
  | identifier pos ident =>
      simp only [checkHead, located_ok_iff] at checked
      obtain ⟨generated, params, ret, entry, rfl⟩ := call_function_ok checked
      exact .function entry
  | field pos ident =>
      simp only [checkHead, located_ok_iff] at checked
      rcases List.eq_nil_or_concat ident with rfl | ⟨front, last, rfl⟩
      · cases named
      · rw [List.concat_eq_append] at checked ⊢
        obtain ⟨member, name, params, ret, prior, fielded, rfl⟩ := chain_calls passed checked
        exact .member prior fielded
  | var reading =>
      obtain ⟨pos, ident⟩ := reading
      simp only [checkHead, located_ok_iff] at checked
      obtain ⟨first, rest, generated, ty, rfl, entry, alone, chained⟩ := read_variable_ok checked
      -- a variable with nothing read from it is only accepted with nothing handed to it
      rcases List.eq_nil_or_concat rest with rfl | ⟨front, last, rfl⟩
      · exact absurd (alone rfl) passed
      · rw [List.concat_eq_append] at chained ⊢
        obtain ⟨member, name, params, ret, prior, fielded, rfl⟩ := chain_calls passed chained
        exact .reading entry prior fielded
  | _ => exact absurd (check_head_value_ok (by simp) checked).1 passed

theorem check_head_value_refuses {scope : Scope} {head : Arg} {handed : List Expr} {alone : Expr}
    {value : Unit → Except CheckError Expr} (passed : handed ≠ [])
    (plain : (∀ pos ident, head ≠ .identifier pos ident) ∧ (∀ pos ident, head ≠ .field pos ident) ∧
      ∀ reading, head ≠ .var reading) (valued : value () = .ok alone) :
    checkHead scope head handed value =
      .error ⟨.notCallable head.render alone.ty, head.pos, head.render⟩ := by
  obtain ⟨noFunction, noField, noVariable⟩ := plain
  have some : handed.isEmpty = false := by simpa using passed
  unfold checkHead
  split
  · exact absurd rfl (noFunction _ _)
  · exact absurd rfl (noField _ _)
  · exact absurd rfl (noVariable _)
  · simp [valued, some]

theorem check_head_refuses {scope : Scope} {head : Arg} {handed : List Expr} {alone : Expr}
    (passed : handed ≠ []) (named : head.isBareField = false)
    (valued : checkArg scope head = .ok alone) (uncalled : ¬head.Calls scope [] alone) :
    ∃ name ty, checkHead scope head handed (fun _ => checkArg scope head) =
      .error ⟨.notCallable name ty, head.pos, head.render⟩ := by
  have some : handed.isEmpty = false := by simpa using passed
  cases head with
  | identifier pos ident =>
      simp only [checkArg, located_ok_iff] at valued
      obtain ⟨generated, params, ret, entry, rfl⟩ := call_function_ok valued
      exact absurd (.function entry) uncalled
  | field pos ident =>
      simp only [checkArg, located_ok_iff] at valued
      rcases List.eq_nil_or_concat ident with rfl | ⟨front, last, rfl⟩
      · cases named
      · rw [List.concat_eq_append] at valued uncalled ⊢
        rcases chain_calls_or_refuses passed valued with
          ⟨member, name, params, ret, prior, fielded, rfl⟩ | ⟨ty, refused⟩
        · exact absurd (.member prior fielded) uncalled
        · exact ⟨last, ty, by simp [checkHead, refused, located, Arg.pos]⟩
  | var reading =>
      obtain ⟨pos, ident⟩ := reading
      simp only [checkArg, located_ok_iff] at valued
      obtain ⟨first, rest, generated, ty, rfl, entry, _, chained⟩ := read_variable_ok valued
      have found : scope.fieldNamed first = .ok (generated, ty) := by
        simp [Scope.fieldNamed, entry]
      rcases List.eq_nil_or_concat rest with rfl | ⟨front, last, rfl⟩
      · exact ⟨first, ty, by simp [checkHead, readVariable, found, some, located, Arg.pos]⟩
      · rw [List.concat_eq_append] at chained uncalled ⊢
        rcases chain_calls_or_refuses passed chained with
          ⟨member, name, params, ret, prior, fielded, rfl⟩ | ⟨ended, refused⟩
        · exact absurd (.reading entry prior fielded) uncalled
        · exact ⟨last, ended, by simp [checkHead, readVariable, found, refused, located, Arg.pos]⟩
  | _ => exact ⟨_, alone.ty, check_head_value_refuses passed (by simp) valued⟩

structure Stage where
  head : Arg
  handed : List Expr
  value : Expr

/-- The stages of commands that come after a value. The value of a stage is the last thing that the
next one is handed. -/
inductive Stages (scope : Scope) : Option Expr → List Command → List Stage → Prop
  | nil {piped : Option Expr} : Stages scope piped [] []
  | cons {piped : Option Expr} {pos : Offset} {head : Arg} {rest : List Arg}
      {commands : List Command} {args : List Expr} {value : Expr} {stages : List Stage} :
      checkArgs scope rest = .ok args →
      checkHead scope head (args ++ piped.toList) (fun _ => checkArg scope head) = .ok value →
      Stages scope (some value) commands stages →
      Stages scope piped (⟨pos, head :: rest⟩ :: commands)
        (⟨head, args ++ piped.toList, value⟩ :: stages)

theorem check_commands_stages {scope : Scope} {whole : Pipe} {commands : List Command}
    {piped found : Option Expr} (checked : checkCommands scope whole piped commands = .ok found) :
    ∃ stages, Stages scope piped commands stages ∧
      (stages.getLast?.map Stage.value).or piped = found := by
  induction commands generalizing piped with
  | nil => exact ⟨[], .nil, by simpa using Except.ok.inj checked⟩
  | cons command commands ih =>
      obtain ⟨value, first, further⟩ := bind_ok_iff.mp checked
      obtain ⟨head, rest, args, spelled, argsChecked, headChecked⟩ := check_command_ok first
      obtain ⟨stages, onward, last⟩ := ih further
      obtain ⟨pos, args⟩ := command
      subst spelled
      refine ⟨_, .cons argsChecked headChecked onward, ?_⟩
      cases stages with
      | nil => simpa using last
      | cons stage stages => simpa [List.getLast?_cons] using last

theorem Stages.checked {scope : Scope} {piped : Option Expr} {commands : List Command}
    {stages : List Stage} (run : Stages scope piped commands stages) :
    ∀ stage ∈ stages, checkHead scope stage.head stage.handed
      (fun _ => checkArg scope stage.head) = .ok stage.value := by
  induction run with
  | nil => simp
  | cons _ head _ ih => simpa using ⟨head, ih⟩

theorem check_commands_append (scope : Scope) (whole : Pipe) (piped : Option Expr)
    (before after : List Command) :
    checkCommands scope whole piped (before ++ after) =
      checkCommands scope whole piped before >>= fun value =>
        checkCommands scope whole value after := by
  induction before generalizing piped with
  | nil => rfl
  | cons command rest ih =>
      simp only [List.cons_append, checkCommands]
      cases checkCommand scope whole piped command with
      | error cause => rfl
      | ok value => exact ih (some value)

theorem check_pipe_error {scope : Scope} {pipe : Pipe} {cause : CheckError}
    (failed : checkCommands scope pipe none pipe.commands = .error cause) :
    checkPipe scope pipe = .error cause := by
  obtain ⟨pos, assigns, targets, commands⟩ := pipe
  simp only at failed
  simp [checkPipe, failed, bind, Except.bind]

/-- In an accepted pipeline whatever a head is handed becomes the arguments of the call made for it,
unless the head is a field without names. A head that means something but is no call has the
pipeline refused as soon as it is handed anything, again unless it is such a field. -/
theorem pipeline_hands_over (scope : Scope) (pipe : Pipe) :
    (∀ found, checkPipe scope pipe = .ok found →
      ∃ stages, Stages scope none pipe.commands stages ∧
        stages.getLast?.map Stage.value = some found ∧
        ∀ stage ∈ stages, stage.handed ≠ [] →
          (stage.head.Calls scope stage.handed stage.value ↔ stage.head.isBareField = false)) ∧
    ∀ before pos head rest after piped args alone,
      pipe.commands = before ++ ⟨pos, head :: rest⟩ :: after →
      checkCommands scope pipe none before = .ok piped → checkArgs scope rest = .ok args →
      args ++ piped.toList ≠ [] → checkArg scope head = .ok alone →
      ¬head.Calls scope [] alone → head.isBareField = false →
      ∃ name ty, checkPipe scope pipe = .error ⟨.notCallable name ty, head.pos, head.render⟩ := by
  constructor
  · intro found checked
    obtain ⟨stages, run, last⟩ := check_commands_stages (check_pipe_ok checked)
    refine ⟨stages, run, by simpa using last, ?_⟩
    intro stage member passed
    constructor
    · exact Arg.Calls.not_bare
    · intro named
      exact check_head_calls passed named (run.checked stage member)
  · intro before pos head rest after piped args alone split prior argsChecked passed valued
      uncalled named
    obtain ⟨name, ty, refused⟩ := check_head_refuses passed named valued uncalled
    refine ⟨name, ty, check_pipe_error ?_⟩
    -- the commands in front succeed, so the failure of this one is that of the pipeline
    rw [split, check_commands_append, prior, ok_bind]
    simp only [checkCommands, checkCommand, argsChecked, ok_bind, refused]
    rfl

def personType : Ty :=
  .object [("Greet", .function [.string] (some .string)), ("Name", .string)] [("Name", "name")]

def personScope : Scope :=
  ⟨((Level.empty personType).bind "$" personType).bindFunctions
    [("printf", ⟨[.string, .string], some .string⟩)], []⟩

/-- The name is piped through the method and on to the function. -/
def greetingPipe : Pipe :=
  ⟨0, false, [], [⟨0, [.field 0 ["Name"]]⟩, ⟨0, [.var ⟨0, ["$", "Greet"]⟩]⟩,
    ⟨0, [.identifier 0 "printf", .string 0 "%s"]⟩]⟩

def misdirectedPipe : Pipe :=
  ⟨0, false, [], [⟨0, [.number 0 "1"]⟩, ⟨7, [.field 7 ["Name"]]⟩]⟩

theorem greeting_hands_over :
    (∃ found stages, checkPipe personScope greetingPipe = .ok found ∧
      Stages personScope none greetingPipe.commands stages ∧
      stages.getLast?.map Stage.value = some found ∧
      ∀ stage ∈ stages, stage.handed ≠ [] →
        (stage.head.Calls personScope stage.handed stage.value ↔
          stage.head.isBareField = false)) ∧
    ∃ name ty, checkPipe personScope misdirectedPipe =
      .error ⟨.notCallable name ty, 7, (Arg.field 7 ["Name"]).render⟩ := by
  constructor
  · have succeeds : (checkPipe personScope greetingPipe).toOption.isSome = true := by
      decide +kernel
    obtain ⟨found, checked⟩ := ok_of_to_option succeeds
    obtain ⟨stages, run, last, handed⟩ := (pipeline_hands_over _ _).1 found checked
    exact ⟨found, stages, checked, run, last, handed⟩
  · obtain ⟨piped, number⟩ : ∃ piped,
        checkCommands personScope misdirectedPipe none [⟨0, [.number 0 "1"]⟩] =
          .ok (some piped) := ⟨_, rfl⟩
    refine (pipeline_hands_over _ _).2 [⟨0, [.number 0 "1"]⟩] 7 (.field 7 ["Name"]) [] []
      (some piped) [] (.field (.context personType) "name" .string) rfl number rfl (by simp) rfl ?_
      rfl
    intro called
    obtain ⟨_, _, _, same⟩ := called.method
    cases same

def bareFieldPipe : Pipe :=
  ⟨0, false, [], [⟨0, [.string 0 "lost"]⟩, ⟨0, [.field 0 []]⟩]⟩

theorem bare_field_lets_go :
    checkPipe (Scope.root .string) bareFieldPipe = .ok (.context .string) ∧
      Stages (Scope.root .string) none bareFieldPipe.commands
        [⟨.string 0 "lost", [], .ofConstant (.string "lost")⟩,
          ⟨.field 0 [], [.ofConstant (.string "lost")], .context .string⟩] ∧
      ¬(Arg.field 0 []).Calls (Scope.root .string) [.ofConstant (.string "lost")]
        (.context .string) := by
  have nothing : checkArgs (Scope.root .string) [] = .ok [] := rfl
  refine ⟨rfl, .cons nothing rfl (.cons nothing rfl .nil), ?_⟩
  intro called
  obtain ⟨_, _, _, same⟩ := called.method
  cases same

end TemplateScript
