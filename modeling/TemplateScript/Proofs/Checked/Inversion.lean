import TemplateScript.Checked.Check

/-!
What a successful check must have found.

One statement for each step of the checker: when it succeeds, these were its parts and this is its
result. Proofs about checked templates start from these and never open the checker itself.
-/
namespace TemplateScript

@[simp] theorem ok_bind {ε α β : Type} (value : α) (next : α → Except ε β) :
    (Except.ok value >>= next) = next value := rfl

@[simp] theorem pure_eq_ok {ε α : Type} (value : α) : (pure value : Except ε α) = .ok value := rfl

theorem bind_ok_iff {ε α β : Type} {first : Except ε α} {next : α → Except ε β} {result : β} :
    (first >>= next) = .ok result ↔ ∃ value, first = .ok value ∧ next value = .ok result := by
  cases first with
  | error cause => simp [bind, Except.bind]
  | ok value => simp [bind, Except.bind]

theorem map_ok_iff {ε α β : Type} {first : Except ε α} {f : α → β} {result : β} :
    first.map f = .ok result ↔ ∃ value, first = .ok value ∧ f value = result := by
  cases first with
  | error cause => simp [Except.map]
  | ok value => simp [Except.map]

theorem pure_ok_iff {ε α : Type} {value result : α} :
    (pure value : Except ε α) = .ok result ↔ value = result := by
  simp [pure, Except.pure]

theorem ok_of_to_option {ε α : Type} {outcome : Except ε α}
    (succeeds : outcome.toOption.isSome = true) : ∃ value, outcome = .ok value := by
  cases outcome with
  | error cause => cases succeeds
  | ok value => exact ⟨value, rfl⟩

@[simp] theorem located_ok_iff {α : Type} {pos : Offset} {render : Unit → String}
    {outcome : Except TypeError α} {value : α} :
    located pos render outcome = .ok value ↔ outcome = .ok value := by
  cases outcome <;> simp [located]

theorem invoke_ok {subject : Expr} {name : String} {ty : Ty} {args : List Expr} {found : Expr}
    (invoked : invoke subject name ty args = .ok found) :
    ∃ params ret, ty = .function params (some ret) ∧ found = .method subject name args ret := by
  unfold invoke at invoked
  split at invoked
  · next params ret => exact ⟨params, ret, rfl, (Except.ok.inj invoked).symm⟩
  · cases invoked
  · cases invoked

theorem call_function_ok {scope : Scope} {ident : String} {args : List Expr} {found : Expr}
    (called : callFunction scope ident args = .ok found) :
    ∃ generated params ret,
      Scope.lookup (functionKey ident) scope.levels =
        some (generated, .function params (some ret)) ∧
      found = .method (.globals scope.globals) ident args ret := by
  obtain ⟨⟨name, ty⟩, named, invoked⟩ := bind_ok_iff.mp called
  obtain ⟨params, ret, rfl, rfl⟩ := invoke_ok invoked
  unfold Scope.functionNamed at named
  split at named
  · next generated here entry =>
      simp only [Except.ok.injEq, Prod.mk.injEq] at named
      obtain ⟨rfl, rfl⟩ := named
      exact ⟨generated, params, ret, entry, rfl⟩
  · cases named

theorem read_member_ok {subject : Expr} {ident : String} {args : List Expr} {found : Expr}
    (read : readMember subject ident args = .ok found) :
    ∃ name ty, subject.ty.fieldNamed ident = .ok (name, ty) ∧
      ((∃ params ret, ty = .function params (some ret) ∧ found = .method subject name args ret) ∨
        ((∀ params ret, ty ≠ .function params ret) ∧ args = [] ∧
          found = .field subject name ty)) := by
  obtain ⟨⟨name, ty⟩, named, rest⟩ := bind_ok_iff.mp read
  refine ⟨name, ty, named, ?_⟩
  cases ty with
  | function params ret => exact .inl (invoke_ok rest)
  | _ =>
      simp only [List.isEmpty_iff] at rest
      split at rest
      · next empty => exact .inr ⟨by simp, empty, (Except.ok.inj rest).symm⟩
      · cases rest

theorem read_variable_ok {scope : Scope} {ident : List String} {args : List Expr} {found : Expr}
    (read : readVariable scope ident args = .ok found) :
    ∃ first rest name ty, ident = first :: rest ∧
      Scope.lookup first scope.levels = some (name, ty) ∧ (rest = [] → args = []) ∧
      readChain (.slot name ty) args rest = .ok found := by
  cases ident with
  | nil => cases read
  | cons first rest =>
      obtain ⟨⟨name, ty⟩, named, chained⟩ := bind_ok_iff.mp read
      unfold Scope.fieldNamed at named
      split at named
      · next entry =>
          rw [Except.ok.inj named] at entry
          dsimp only at chained
          split at chained
          · cases chained
          · next fits =>
              refine ⟨first, rest, name, ty, rfl, entry, ?_, chained⟩
              intro same
              subst same
              simpa using fits
      · cases named

theorem number_constant_ok {literal : String} {found : Expr}
    (read : numberConstant literal = .ok found) :
    ∃ value, Constant.read? literal = some value ∧ found = .ofConstant (.number value) := by
  unfold numberConstant at read
  split at read
  · next value known => exact ⟨value, known, (Except.ok.inj read).symm⟩
  · cases read

theorem check_args_ok {scope : Scope} {arg : Arg} {rest : List Arg} {found : List Expr}
    (checked : checkArgs scope (arg :: rest) = .ok found) :
    ∃ first others, checkArg scope arg = .ok first ∧ checkArgs scope rest = .ok others ∧
      found = first :: others := by
  simp only [checkArgs, bind_ok_iff, pure_ok_iff] at checked
  obtain ⟨first, firstChecked, others, othersChecked, rfl⟩ := checked
  exact ⟨first, others, firstChecked, othersChecked, rfl⟩

theorem check_command_ok {scope : Scope} {whole : Pipe} {piped : Option Expr} {command : Command}
    {found : Expr} (checked : checkCommand scope whole piped command = .ok found) :
    ∃ head rest args, command.args = head :: rest ∧ checkArgs scope rest = .ok args ∧
      checkHead scope head (args ++ piped.toList) (fun _ => checkArg scope head) = .ok found := by
  obtain ⟨pos, args⟩ := command
  cases args with
  | nil => cases checked
  | cons head rest =>
      simp only [checkCommand, bind_ok_iff] at checked
      obtain ⟨args, argsChecked, headChecked⟩ := checked
      exact ⟨head, rest, args, rfl, argsChecked, headChecked⟩

theorem check_pipe_ok {scope : Scope} {pipe : Pipe} {found : Expr}
    (checked : checkPipe scope pipe = .ok found) :
    checkCommands scope pipe none pipe.commands = .ok (some found) := by
  obtain ⟨pos, assigns, targets, commands⟩ := pipe
  simp only [checkPipe, bind_ok_iff] at checked
  obtain ⟨last, commandsChecked, rest⟩ := checked
  cases last with
  | none => cases rest
  | some value => rw [← Except.ok.inj rest]; exact commandsChecked

theorem check_head_value_ok {scope : Scope} {head : Arg} {args : List Expr} {found : Expr}
    {value : Unit → Except CheckError Expr}
    (plain : (∀ pos ident, head ≠ .identifier pos ident) ∧ (∀ pos ident, head ≠ .field pos ident) ∧
      ∀ reading, head ≠ .var reading)
    (checked : checkHead scope head args value = .ok found) :
    args = [] ∧ value () = .ok found := by
  obtain ⟨noFunction, noField, noVariable⟩ := plain
  unfold checkHead at checked
  split at checked
  · exact absurd rfl (noFunction _ _)
  · exact absurd rfl (noField _ _)
  · exact absurd rfl (noVariable _)
  · obtain ⟨result, valued, rest⟩ := bind_ok_iff.mp checked
    simp only [List.isEmpty_iff] at rest
    split at rest
    · next empty => exact ⟨empty, by rw [valued, Except.ok.inj rest]⟩
    · cases rest

theorem target_name_ok {render : Unit → String} {target : Variable} {name : String}
    (checked : targetName render target = .ok name) : target.ident = [name] := by
  unfold targetName at checked
  split at checked
  · next own single => rw [single, Except.ok.inj checked]
  · cases checked

theorem target_names_ok {render : Unit → String} {targets : List Variable} {found : List String}
    (checked : targetNames render targets = .ok found) :
    targets.map Variable.ident = found.map fun name => [name] := by
  induction targets generalizing found with
  | nil => rw [← Except.ok.inj checked]; rfl
  | cons target rest ih =>
      simp only [targetNames, bind_ok_iff, pure_ok_iff] at checked
      obtain ⟨name, named, others, othersChecked, rfl⟩ := checked
      simp [target_name_ok named, ih othersChecked]

theorem single_target_ok {render : Unit → String} {pipe : Pipe} {found : Option String}
    (checked : singleTarget render pipe = .ok found) :
    pipe.targets.map Variable.ident = found.toList.map fun name => [name] := by
  unfold singleTarget at checked
  split at checked
  · next none => rw [none, ← Except.ok.inj checked]; rfl
  · next target single =>
      obtain ⟨name, named, rfl⟩ := map_ok_iff.mp checked
      simp [single, target_name_ok named]
  · cases checked

/-- An action emits its value, assigns a variable of the same type, or declares one. -/
theorem check_action_ok {scope next : Scope} {pos : Offset} {pipe : Pipe} {statement : Statement}
    (checked : checkAction scope pos pipe = .ok (statement, next)) :
    ∃ value, checkPipe scope pipe = .ok value ∧
      ((pipe.targets = [] ∧ statement = .emit value ∧ next = scope) ∨
        ∃ name, pipe.targets.map Variable.ident = [[name]] ∧
          ((pipe.assigns = true ∧ next = scope ∧
              ∃ generated, Scope.lookup name scope.levels = some (generated, value.ty) ∧
                statement = .assign generated value) ∨
            (pipe.assigns = false ∧ next = (scope.declareLocal name value.ty).2 ∧
              statement = .declare (scope.declareLocal name value.ty).1 value))) := by
  simp only [checkAction, bind_ok_iff] at checked
  obtain ⟨target, single, rest⟩ := checked
  have targets := single_target_ok single
  cases target with
  | none =>
      simp only [bind_ok_iff, pure_ok_iff, Prod.mk.injEq] at rest
      obtain ⟨value, valued, rfl, rfl⟩ := rest
      have empty : pipe.targets = [] := by simpa using targets
      exact ⟨value, valued, .inl ⟨empty, rfl, rfl⟩⟩
  | some name =>
      simp only [bind_ok_iff] at rest
      obtain ⟨value, valued, rest⟩ := rest
      refine ⟨value, valued, .inr ⟨name, targets, ?_⟩⟩
      cases assigns : pipe.assigns with
      | true =>
          simp only [assigns, if_true, bind_ok_iff, located_ok_iff] at rest
          obtain ⟨⟨generated, declared⟩, named, rest⟩ := rest
          dsimp only at rest
          split at rest
          · next same =>
              simp only [pure_ok_iff, Prod.mk.injEq] at rest
              obtain ⟨rfl, rfl⟩ := rest
              refine .inl ⟨rfl, rfl, generated, ?_, rfl⟩
              unfold Scope.fieldNamed at named
              split at named
              · next entry => rw [entry, Except.ok.inj named, same]
              · cases named
          · cases rest
      | false =>
          simp only [assigns, Bool.false_eq_true, if_false, pure_ok_iff, Prod.mk.injEq] at rest
          obtain ⟨rfl, rfl⟩ := rest
          exact .inr ⟨rfl, rfl, rfl⟩

def conditionalScope (scope : Scope) (rebinds : Bool) (bound : Option String) (ty : Ty) : Scope :=
  if rebinds then (declareIf bound ty scope.child).setContext ty
  else declareIf bound ty scope.child

def loopScope (scope : Scope) (index value : Option String) (element : Ty) : Scope :=
  declareIf value element (declareIf index .number (scope.child.setContext element))

theorem open_conditional_ok {scope child : Scope} {rebinds : Bool} {pipe : Pipe}
    {render : Unit → String} {head : BranchHead}
    (opened : openConditional scope rebinds pipe render = .ok (head, child)) :
    ∃ test bound, checkPipe scope.child pipe = .ok test ∧
      pipe.targets.map Variable.ident = bound.toList.map (fun name => [name]) ∧
      head = .conditional test rebinds bound ∧
      child = conditionalScope scope rebinds bound test.ty := by
  simp only [openConditional, bind_ok_iff, pure_ok_iff, Prod.mk.injEq] at opened
  obtain ⟨bound, single, test, tested, rfl, rfl⟩ := opened
  exact ⟨test, bound, tested, single_target_ok single, rfl, rfl⟩

theorem loop_names_ok {render : Unit → String} {pos : Offset} {names : List String}
    {index value : Option String} (chosen : loopNames render pos names = .ok (index, value)) :
    names = index.toList ++ value.toList ∧ (value = none → index = none) := by
  unfold loopNames at chosen
  split at chosen <;> simp_all only [Except.ok.injEq, Prod.mk.injEq, reduceCtorEq] <;>
    obtain ⟨rfl, rfl⟩ := chosen <;> simp

theorem iterate_ok {ty element : Ty} (iterated : ty.iterate = .ok element) :
    ty = .array element := by
  cases ty with
  | array own => rw [Except.ok.inj iterated]
  | _ => cases iterated

theorem open_loop_ok {scope child : Scope} {pos : Offset} {pipe : Pipe} {render : Unit → String}
    {head : BranchHead} (opened : openLoop scope pos pipe render = .ok (head, child)) :
    ∃ subject index value element, checkPipe scope.child pipe = .ok subject ∧
      subject.ty = .array element ∧
      pipe.targets.map Variable.ident =
        (index.toList ++ value.toList).map (fun name => [name]) ∧
      (value = none → index = none) ∧ head = .loop subject index value ∧
      child = loopScope scope index value element := by
  simp only [openLoop, bind_ok_iff, located_ok_iff, pure_ok_iff, Prod.mk.injEq] at opened
  obtain ⟨names, targets, ⟨index, value⟩, chosen, subject, checked, element, iterated, rfl, rfl⟩ :=
    opened
  obtain ⟨rfl, ordered⟩ := loop_names_ok chosen
  exact ⟨subject, index, value, element, checked, iterate_ok iterated, target_names_ok targets,
    ordered, rfl, rfl⟩

theorem open_branch_ok {scope child : Scope} {kind : BranchKind} {pos : Offset} {pipe : Pipe}
    {render : Unit → String} {head : BranchHead}
    (opened : openBranch scope kind pos pipe render = .ok (head, child)) :
    pipe.assigns = false ∧
      ((kind ≠ .range ∧ openConditional scope (decide (kind = .with)) pipe render =
          .ok (head, child)) ∨
        (kind = .range ∧ openLoop scope pos pipe render = .ok (head, child))) := by
  unfold openBranch at opened
  split at opened
  · cases opened
  · next declares =>
      refine ⟨by simpa using declares, ?_⟩
      cases kind with
      | «if» => exact .inl ⟨by simp, opened⟩
      | «with» => exact .inl ⟨by simp, opened⟩
      | range => exact .inr ⟨rfl, opened⟩

theorem check_template_ok_iff {known : KnownTemplates} {scope : Scope} {pos : Offset}
    {name : String} {pipe : Option Pipe} {statement : Statement} :
    checkTemplate known scope pos name pipe = .ok statement ↔
      KnownTemplates.admits known name = true ∧
        ((pipe = none ∧ statement = .include name none) ∨
          ∃ context value, pipe = some context ∧ checkPipe scope context = .ok value ∧
            statement = .include name (some value)) := by
  unfold checkTemplate
  cases KnownTemplates.admits known name with
  | false => simp
  | true =>
      cases pipe with
      | none => simp [eq_comm]
      | some context =>
          simp only [if_true, map_ok_iff, reduceCtorEq, false_and, false_or, true_and,
            Option.some.injEq]
          constructor
          · intro given
            rcases given with ⟨value, checked, rfl⟩
            exact ⟨context, value, rfl, checked, rfl⟩
          · intro given
            rcases given with ⟨_, value, rfl, checked, rfl⟩
            exact ⟨value, checked, rfl⟩

def elseNodes : Option Block → List Node
  | none => []
  | some block => block.nodes

theorem check_block_ok_iff {known : KnownTemplates} {scope : Scope} {block : Block}
    {statements : List Statement} {frame : Frame} :
    checkBlock known scope block = .ok (statements, frame) ↔
      ∃ last, checkNodes known scope block.nodes = .ok (statements, last) ∧
        frame = last.toFrame := by
  obtain ⟨pos, nodes⟩ := block
  simp only [checkBlock, bind_ok_iff, pure_ok_iff, Prod.mk.injEq, Prod.exists]
  constructor
  · intro given
    rcases given with ⟨found, last, checked, rfl, rfl⟩
    exact ⟨last, checked, rfl⟩
  · intro given
    rcases given with ⟨last, checked, rfl⟩
    exact ⟨statements, last, checked, rfl, rfl⟩

theorem check_nodes_cons_ok_iff {known : KnownTemplates} {scope last : Scope} {node : Node}
    {rest : List Node} {statements : List Statement} :
    checkNodes known scope (node :: rest) = .ok (statements, last) ↔
      ∃ first next more, checkNode known scope node = .ok (first, next) ∧
        checkNodes known next rest = .ok (more, last) ∧ statements = first ++ more := by
  simp only [checkNodes, bind_ok_iff, pure_ok_iff, Prod.mk.injEq, Prod.exists]
  constructor
  · intro given
    rcases given with ⟨first, next, firstChecked, more, last, moreChecked, rfl, rfl⟩
    exact ⟨first, next, more, firstChecked, moreChecked, rfl⟩
  · intro given
    rcases given with ⟨first, next, more, firstChecked, moreChecked, rfl⟩
    exact ⟨first, next, firstChecked, more, last, moreChecked, rfl, rfl⟩

theorem check_action_node_ok_iff {known : KnownTemplates} {scope next : Scope} {pos : Offset}
    {pipe : Pipe} {statements : List Statement} :
    checkNode known scope (.action pos pipe) = .ok (statements, next) ↔
      ∃ statement, checkAction scope pos pipe = .ok (statement, next) ∧
        statements = [statement] := by
  simp only [checkNode, bind_ok_iff, pure_ok_iff, Prod.mk.injEq, Prod.exists]
  constructor
  · intro given
    rcases given with ⟨statement, next, checked, rfl, rfl⟩
    exact ⟨statement, checked, rfl⟩
  · intro given
    rcases given with ⟨statement, checked, rfl⟩
    exact ⟨statement, next, checked, rfl, rfl⟩

theorem check_template_node_ok_iff {known : KnownTemplates} {scope next : Scope} {pos : Offset}
    {name : String} {pipe : Option Pipe} {statements : List Statement} :
    checkNode known scope (.template pos name pipe) = .ok (statements, next) ↔
      ∃ statement, checkTemplate known scope pos name pipe = .ok statement ∧
        statements = [statement] ∧ next = scope := by
  simp only [checkNode, bind_ok_iff, pure_ok_iff, Prod.mk.injEq]
  constructor
  · intro given
    rcases given with ⟨statement, checked, rfl, rfl⟩
    exact ⟨statement, checked, rfl, rfl⟩
  · intro given
    rcases given with ⟨statement, checked, rfl, rfl⟩
    exact ⟨statement, checked, rfl, rfl⟩

/-- Both arms are checked inside the same scope, which the block leaves as it was. -/
theorem check_branch_ok_iff {known : KnownTemplates} {scope next : Scope} {kind : BranchKind}
    {pos : Offset} {pipe : Pipe} {body : Block} {otherwise : Option Block}
    {statements : List Statement} :
    checkNode known scope (.branch kind pos pipe body otherwise) = .ok (statements, next) ↔
      ∃ head child inner innerEnd other otherEnd,
        openBranch scope kind pos pipe
          (fun _ => (Node.branch kind pos pipe body otherwise).render) = .ok (head, child) ∧
        checkNodes known child body.nodes = .ok (inner, innerEnd) ∧
        checkNodes known scope.child (elseNodes otherwise) = .ok (other, otherEnd) ∧
        statements = [head.close inner innerEnd.toFrame other otherEnd.toFrame] ∧
        next = scope := by
  cases otherwise with
  | none =>
      simp only [checkNode, bind_ok_iff, pure_ok_iff, Prod.mk.injEq, Prod.exists,
        check_block_ok_iff, elseNodes, checkNodes, Except.ok.injEq]
      constructor
      · intro given
        rcases given with
          ⟨head, child, opened, inner, _, ⟨innerEnd, checked, rfl⟩, _, _, ⟨rfl, rfl⟩, rfl, rfl⟩
        exact ⟨head, child, inner, innerEnd, _, _, opened, checked, ⟨rfl, rfl⟩, rfl, rfl⟩
      · intro given
        rcases given with
          ⟨head, child, inner, innerEnd, _, _, opened, checked, ⟨rfl, rfl⟩, rfl, rfl⟩
        exact ⟨head, child, opened, inner, _, ⟨innerEnd, checked, rfl⟩, _, _, ⟨rfl, rfl⟩, rfl, rfl⟩
  | some block =>
      simp only [checkNode, bind_ok_iff, pure_ok_iff, Prod.mk.injEq, Prod.exists,
        check_block_ok_iff, elseNodes]
      constructor
      · intro given
        rcases given with ⟨head, child, opened, inner, _, ⟨innerEnd, checked, rfl⟩, other, _,
          ⟨otherEnd, otherChecked, rfl⟩, rfl, rfl⟩
        exact ⟨head, child, inner, innerEnd, other, otherEnd, opened, checked, otherChecked, rfl,
          rfl⟩
      · intro given
        rcases given with
          ⟨head, child, inner, innerEnd, other, otherEnd, opened, checked, otherChecked, rfl, rfl⟩
        exact ⟨head, child, opened, inner, _, ⟨innerEnd, checked, rfl⟩, other, _,
          ⟨otherEnd, otherChecked, rfl⟩, rfl, rfl⟩

theorem check_tree_ok_iff {known : KnownTemplates} {root : Scope} {tree : Tree}
    {checked : CheckedTemplate} :
    tree.check known root = .ok checked ↔
      ∃ last, checkNodes known root.child tree.root.nodes = .ok (checked.body, last) ∧
        checked.name = tree.name ∧ checked.frame = last.toFrame := by
  obtain ⟨name, body, frame⟩ := checked
  simp only [Tree.check, bind_ok_iff, pure_ok_iff, Prod.exists, check_block_ok_iff,
    CheckedTemplate.mk.injEq]
  constructor
  · intro given
    rcases given with ⟨body, frame, ⟨last, checked, rfl⟩, rfl, rfl, rfl⟩
    exact ⟨last, checked, rfl, rfl⟩
  · intro given
    rcases given with ⟨last, checked, rfl, rfl⟩
    exact ⟨body, _, ⟨last, checked, rfl⟩, rfl, rfl, rfl⟩

end TemplateScript
