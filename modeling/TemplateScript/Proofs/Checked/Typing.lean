import TemplateScript.Proofs.Checked.Composing
import TemplateScript.Proofs.Scope.Functions

/-!
When a checked template is well typed.

An expression is typed in a scope when every part of it is what the scope and the types of its
parts say. Statements are typed from the scope in front of them to the scope behind them, so that
the type of a variable may change where it is declared again. Everything that the checker accepts is
typed. The predicate on names is whatever the variables of the tree are known to satisfy.
-/
namespace TemplateScript

/-- The table of functions has no rule of its own: it only stands in front of a call. -/
inductive Expr.Typed (names : String → Bool) (scope : Scope) : Expr → Prop
  | constant (value : Constant.Value) : Typed names scope (.constant value value.ty)
  | field {subject : Expr} {ident name : String} {ty : Ty} :
      Typed names scope subject → subject.ty.fieldNamed ident = .ok (name, ty) →
      (∀ params ret, ty ≠ .function params ret) → Typed names scope (.field subject name ty)
  | method {subject : Expr} {ident name : String} {params : List Ty} {ret : Ty}
      {args : List Expr} :
      Typed names scope subject →
      subject.ty.fieldNamed ident = .ok (name, .function params (some ret)) →
      (∀ arg ∈ args, Typed names scope arg) → Typed names scope (.method subject name args ret)
  | call {ident generated : String} {params : List Ty} {ret : Ty} {args : List Expr} :
      Scope.lookup (functionKey ident) scope.levels =
        some (generated, .function params (some ret)) →
      (∀ arg ∈ args, Typed names scope arg) →
      Typed names scope (.method (.globals scope.globals) ident args ret)
  | slot {var name : String} {ty : Ty} :
      names var = true → Scope.lookup var scope.levels = some (name, ty) →
      Typed names scope (.slot name ty)
  | context : Typed names scope (.context scope.context)

/-- Statements lead from one scope to another; each arm of a block leads from the scope that the
block opens for it to the one whose frame the block keeps. -/
inductive Statements.Typed (names : String → Bool) : Scope → List Statement → Scope → Prop
  | nil {scope : Scope} : Typed names scope [] scope
  | text {scope last : Scope} {content : String} {rest : List Statement} :
      Typed names scope rest last → Typed names scope (.text content :: rest) last
  | emit {scope last : Scope} {value : Expr} {rest : List Statement} :
      value.Typed names scope → Typed names scope rest last →
      Typed names scope (.emit value :: rest) last
  | declare {scope last : Scope} {var : String} {value : Expr} {rest : List Statement} :
      value.Typed names scope → names var = true →
      Typed names (scope.declareLocal var value.ty).2 rest last →
      Typed names scope (.declare (scope.declareLocal var value.ty).1 value :: rest) last
  | assign {scope last : Scope} {var name : String} {value : Expr} {rest : List Statement} :
      value.Typed names scope → names var = true →
      Scope.lookup var scope.levels = some (name, value.ty) → Typed names scope rest last →
      Typed names scope (.assign name value :: rest) last
  | conditional {scope last bodyEnd otherEnd : Scope} {test : Expr} {rebinds : Bool}
      {bound : Option String} {body otherwise rest : List Statement} :
      test.Typed names scope → (∀ var ∈ bound, names var = true) →
      Typed names (conditionalScope scope rebinds bound test.ty) body bodyEnd →
      Typed names scope.child otherwise otherEnd → Typed names scope rest last →
      Typed names scope (.conditional test rebinds bound body bodyEnd.toFrame otherwise
        otherEnd.toFrame :: rest) last
  | loop {scope last bodyEnd otherEnd : Scope} {subject : Expr} {element : Ty}
      {index value : Option String} {body otherwise rest : List Statement} :
      subject.Typed names scope → subject.ty = .array element →
      (∀ var ∈ index, names var = true) → (∀ var ∈ value, names var = true) →
      Typed names (loopScope scope index value element) body bodyEnd →
      Typed names scope.child otherwise otherEnd → Typed names scope rest last →
      Typed names scope (.loop subject index value body bodyEnd.toFrame otherwise
        otherEnd.toFrame :: rest) last
  | «include» {scope last : Scope} {name : String} {context : Option Expr}
      {rest : List Statement} :
      (∀ value ∈ context, value.Typed names scope) → Typed names scope rest last →
      Typed names scope (.include name context :: rest) last

variable {names : String → Bool}

theorem Statements.Typed.append {scope next last : Scope} {first more : List Statement}
    (typed : Statements.Typed names scope first next)
    (further : Statements.Typed names next more last) :
    Statements.Typed names scope (first ++ more) last := by
  induction typed with
  | nil => exact further
  | text _ ih => exact .text (ih further)
  | emit value _ ih => exact .emit value (ih further)
  | declare value var _ ih => exact .declare value var (ih further)
  | assign value var found _ ih => exact .assign value var found (ih further)
  | conditional test bound body otherwise _ _ _ ih =>
      exact .conditional test bound body otherwise (ih further)
  | loop subject array index value body otherwise _ _ _ ih =>
      exact .loop subject array index value body otherwise (ih further)
  | «include» context _ ih => exact .include context (ih further)

theorem Expr.Typed.of_child {scope : Scope} {found : Expr}
    (typed : found.Typed names scope.child) : found.Typed names scope := by
  induction typed with
  | constant value => exact .constant value
  | field _ named plain ih => exact .field ih named plain
  | method _ named _ ih argsIh => exact .method ih named argsIh
  | call entry _ argsIh =>
      rw [Scope.lookup_child] at entry
      rw [Scope.globals_child]
      exact .call entry argsIh
  | slot var entry =>
      rw [Scope.lookup_child] at entry
      exact .slot var entry
  | context => exact .context

theorem call_function_typed {scope : Scope} {ident : String} {args : List Expr} {found : Expr}
    (argsTyped : ∀ arg ∈ args, arg.Typed names scope)
    (called : callFunction scope ident args = .ok found) : found.Typed names scope := by
  obtain ⟨generated, params, ret, entry, rfl⟩ := call_function_ok called
  exact .call entry argsTyped

theorem read_member_typed {scope : Scope} {subject : Expr} {ident : String} {args : List Expr}
    {found : Expr} (subjectTyped : subject.Typed names scope)
    (argsTyped : ∀ arg ∈ args, arg.Typed names scope)
    (read : readMember subject ident args = .ok found) : found.Typed names scope := by
  obtain ⟨name, ty, named, ⟨params, ret, rfl, rfl⟩ | ⟨plain, _, rfl⟩⟩ := read_member_ok read
  · exact .method subjectTyped named argsTyped
  · exact .field subjectTyped named plain

theorem typed_composed (scope : Scope) : Composed names scope (Expr.Typed names scope) where
  number _ := .constant _
  bool _ := .constant _
  string _ := .constant _
  context := .context
  slot := .slot
  member := read_member_typed
  call := call_function_typed

theorem check_args_typed {scope : Scope} (args : List Arg) {found : List Expr}
    (named : Arg.namedAll names args = true) (checked : checkArgs scope args = .ok found) :
    ∀ arg ∈ found, arg.Typed names scope :=
  (typed_composed scope).args args named checked

theorem check_command_typed {scope : Scope} {whole : Pipe} {piped : Option Expr}
    (pipedTyped : ∀ value ∈ piped, value.Typed names scope) (command : Command) {found : Expr}
    (named : command.named names = true)
    (checked : checkCommand scope whole piped command = .ok found) : found.Typed names scope :=
  (typed_composed scope).command pipedTyped command named checked

theorem check_pipe_typed {scope : Scope} (pipe : Pipe) {found : Expr}
    (named : pipe.named names = true) (checked : checkPipe scope pipe = .ok found) :
    found.Typed names scope :=
  (typed_composed scope).pipe pipe named checked

theorem single_targets_named {pipe : Pipe} {found : List String}
    (named : pipe.named names = true)
    (targets : pipe.targets.map Variable.ident = found.map fun name => [name]) :
    ∀ name ∈ found, names name = true := by
  intro name member
  have ident : [name] ∈ pipe.targets.map Variable.ident := by
    rw [targets]
    exact List.mem_map_of_mem member
  obtain ⟨target, present, spelled⟩ := List.mem_map.mp ident
  simpa [Variable.named, spelled] using targets_named named target present

theorem check_action_typed {scope next : Scope} {pos : Offset} {pipe : Pipe}
    {statement : Statement} (named : pipe.named names = true)
    (checked : checkAction scope pos pipe = .ok (statement, next)) :
    Statements.Typed names scope [statement] next := by
  obtain ⟨value, valued, emitted | ⟨name, targets, rest⟩⟩ := check_action_ok checked
  · obtain ⟨_, rfl, rfl⟩ := emitted
    exact .emit (check_pipe_typed pipe named valued) .nil
  · have valueTyped := check_pipe_typed pipe named valued
    have single : pipe.targets.map Variable.ident = [name].map fun name => [name] := targets
    have nameNamed := single_targets_named named single name (by simp)
    rcases rest with ⟨_, rfl, generated, entry, rfl⟩ | ⟨_, rfl, rfl⟩
    · exact .assign valueTyped nameNamed entry .nil
    · exact .declare valueTyped nameNamed .nil

theorem check_template_typed {known : KnownTemplates} {scope : Scope} {pos : Offset}
    {name : String} {pipe : Option Pipe} {statement : Statement}
    (named : ∀ context ∈ pipe, context.named names = true)
    (checked : checkTemplate known scope pos name pipe = .ok statement) :
    Statements.Typed names scope [statement] scope := by
  obtain ⟨_, ⟨_, rfl⟩ | ⟨context, value, rfl, valued, rfl⟩⟩ := check_template_ok_iff.mp checked
  · exact .include (by simp) .nil
  · have valueTyped := check_pipe_typed context (named context rfl) valued
    exact .include (by simpa using valueTyped) .nil

theorem open_branch_typed {scope child innerEnd otherEnd : Scope} {kind : BranchKind}
    {pos : Offset} {pipe : Pipe} {render : Unit → String} {head : BranchHead}
    {inner other : List Statement} (named : pipe.named names = true)
    (opened : openBranch scope kind pos pipe render = .ok (head, child))
    (innerTyped : Statements.Typed names child inner innerEnd)
    (otherTyped : Statements.Typed names scope.child other otherEnd) :
    Statements.Typed names scope [head.close inner innerEnd.toFrame other otherEnd.toFrame]
      scope := by
  obtain ⟨_, ⟨_, conditional⟩ | ⟨_, loop⟩⟩ := open_branch_ok opened
  · obtain ⟨test, bound, tested, targets, rfl, rfl⟩ := open_conditional_ok conditional
    have boundNamed := single_targets_named named targets
    exact .conditional (check_pipe_typed pipe named tested).of_child
      (fun var member => boundNamed var (Option.mem_toList.mpr member)) innerTyped otherTyped .nil
  · obtain ⟨subject, index, value, element, checked, array, targets, _, rfl, rfl⟩ :=
      open_loop_ok loop
    have varsNamed := single_targets_named named targets
    exact .loop (check_pipe_typed pipe named checked).of_child array
      (fun var member => varsNamed var (by simp_all))
      (fun var member => varsNamed var (by simp_all)) innerTyped otherTyped .nil

mutual

theorem check_node_typed {known : KnownTemplates} : (node : Node) → {scope next : Scope} →
    {statements : List Statement} → node.named names = true →
    checkNode known scope node = .ok (statements, next) →
    Statements.Typed names scope statements next
  | .text pos content, scope, next, statements, _, checked => by
      simp only [checkNode, Except.ok.injEq, Prod.mk.injEq] at checked
      obtain ⟨rfl, rfl⟩ := checked
      exact .text .nil
  | .comment pos content, scope, next, statements, _, checked => by
      simp only [checkNode, Except.ok.injEq, Prod.mk.injEq] at checked
      obtain ⟨rfl, rfl⟩ := checked
      exact .nil
  | .action pos pipe, scope, next, statements, named, checked => by
      obtain ⟨statement, action, rfl⟩ := check_action_node_ok_iff.mp checked
      exact check_action_typed named action
  | .template pos name none, scope, next, statements, _, checked => by
      obtain ⟨statement, template, rfl, rfl⟩ := check_template_node_ok_iff.mp checked
      exact check_template_typed (by simp) template
  | .template pos name (some pipe), scope, next, statements, named, checked => by
      obtain ⟨statement, template, rfl, rfl⟩ := check_template_node_ok_iff.mp checked
      simp only [Node.named] at named
      exact check_template_typed (by simpa using named) template
  | .branch kind pos pipe ⟨_, body⟩ none, scope, next, statements, named, checked => by
      simp only [Node.named, Block.named, Bool.and_eq_true] at named
      obtain ⟨head, child, inner, innerEnd, other, otherEnd, opened, innerChecked, otherChecked,
        rfl, rfl⟩ := check_branch_ok_iff.mp checked
      have innerTyped := check_nodes_typed body named.2 innerChecked
      have otherTyped := check_nodes_typed [] (by rfl) otherChecked
      exact open_branch_typed named.1 opened innerTyped otherTyped
  | .branch kind pos pipe ⟨_, body⟩ (some ⟨_, otherwise⟩), scope, next, statements, named,
      checked => by
      simp only [Node.named, Block.named, Bool.and_eq_true] at named
      obtain ⟨head, child, inner, innerEnd, other, otherEnd, opened, innerChecked, otherChecked,
        rfl, rfl⟩ := check_branch_ok_iff.mp checked
      have innerTyped := check_nodes_typed body named.1.2 innerChecked
      have otherTyped := check_nodes_typed otherwise named.2 otherChecked
      exact open_branch_typed named.1.1 opened innerTyped otherTyped

theorem check_nodes_typed {known : KnownTemplates} : (nodes : List Node) →
    {scope last : Scope} → {statements : List Statement} → Node.namedAll names nodes = true →
    checkNodes known scope nodes = .ok (statements, last) →
    Statements.Typed names scope statements last
  | [], scope, last, statements, _, checked => by
      simp only [checkNodes, Except.ok.injEq, Prod.mk.injEq] at checked
      obtain ⟨rfl, rfl⟩ := checked
      exact .nil
  | node :: rest, scope, last, statements, named, checked => by
      simp only [Node.namedAll, Bool.and_eq_true] at named
      obtain ⟨first, next, more, firstChecked, moreChecked, rfl⟩ :=
        check_nodes_cons_ok_iff.mp checked
      exact (check_node_typed node named.1 firstChecked).append
        (check_nodes_typed rest named.2 moreChecked)

end

theorem check_tree_typed {known : KnownTemplates} {root : Scope} {tree : Tree}
    {checked : CheckedTemplate} (named : tree.named names = true)
    (accepted : tree.check known root = .ok checked) :
    ∃ last, Statements.Typed names root.child checked.body last ∧
      checked.frame = last.toFrame := by
  obtain ⟨last, body, _, frame⟩ := check_tree_ok_iff.mp accepted
  obtain ⟨name, text, pos, nodes⟩ := tree
  exact ⟨last, check_nodes_typed nodes named body, frame⟩

end TemplateScript
