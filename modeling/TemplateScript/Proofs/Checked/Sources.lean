import TemplateScript.Proofs.Checked.Linking
import TemplateScript.Proofs.Scope.Reached

/-!
Where the expressions of a checked template come from.

Each of them is what a pipeline of the tree was checked to, in a scope that the operations on scopes
can build.
-/
namespace TemplateScript

variable {names : String → Bool}

/-- What a pipeline with such variables is checked to in some scope. -/
def Expr.Sourced (names : String → Bool) (found : Expr) : Prop :=
  ∃ scope pipe, scope.Reached ∧ pipe.named names = true ∧ checkPipe scope pipe = .ok found

theorem exprs_all_append (left right : List Statement) :
    Statement.exprsAll (left ++ right) =
      Statement.exprsAll left ++ Statement.exprsAll right := by
  induction left with
  | nil => rfl
  | cons first rest ih => simp [Statement.exprsAll, ih]

theorem check_action_sources {scope next : Scope} {pos : Offset} {pipe : Pipe}
    {statement : Statement} (reached : scope.Reached) (named : pipe.named names = true)
    (checked : checkAction scope pos pipe = .ok (statement, next)) :
    next.Reached ∧ ∀ found ∈ statement.exprs, found.Sourced names := by
  obtain ⟨value, valued, cases⟩ := check_action_ok checked
  have sourced : value.Sourced names := ⟨scope, pipe, reached, named, valued⟩
  rcases cases with ⟨_, rfl, rfl⟩ | ⟨name, _, ⟨_, rfl, _, _, rfl⟩ | ⟨_, rfl, rfl⟩⟩
  · exact ⟨reached, by simpa [Statement.exprs] using sourced⟩
  · exact ⟨reached, by simpa [Statement.exprs] using sourced⟩
  · exact ⟨reached.declareLocal name value.ty, by simpa [Statement.exprs] using sourced⟩

theorem check_template_sources {known : KnownTemplates} {scope : Scope} {pos : Offset}
    {name : String} {pipe : Option Pipe} {statement : Statement} (reached : scope.Reached)
    (named : ∀ context ∈ pipe, context.named names = true)
    (checked : checkTemplate known scope pos name pipe = .ok statement) :
    ∀ found ∈ statement.exprs, found.Sourced names := by
  obtain ⟨_, ⟨_, rfl⟩ | ⟨context, value, rfl, valued, rfl⟩⟩ := check_template_ok_iff.mp checked
  · simp [Statement.exprs]
  · have sourced : value.Sourced names := ⟨scope, context, reached, named context rfl, valued⟩
    simpa [Statement.exprs] using sourced

theorem open_branch_sources {scope child : Scope} {kind : BranchKind} {pos : Offset} {pipe : Pipe}
    {render : Unit → String} {head : BranchHead} (reached : scope.Reached)
    (named : pipe.named names = true)
    (opened : openBranch scope kind pos pipe render = .ok (head, child)) :
    child.Reached ∧ ∀ (inner other : List Statement) (frame otherFrame : Frame),
      (∀ found ∈ Statement.exprsAll inner, found.Sourced names) →
      (∀ found ∈ Statement.exprsAll other, found.Sourced names) →
      ∀ found ∈ (head.close inner frame other otherFrame).exprs, found.Sourced names := by
  obtain ⟨_, ⟨_, conditional⟩ | ⟨_, loop⟩⟩ := open_branch_ok opened
  · obtain ⟨test, bound, tested, _, rfl, rfl⟩ := open_conditional_ok conditional
    have sourced : test.Sourced names := ⟨_, pipe, reached.child, named, tested⟩
    refine ⟨reached.conditional _ bound test.ty, fun inner other frame otherFrame body rest => ?_⟩
    simpa [BranchHead.close, Statement.exprs, or_imp, forall_and] using ⟨sourced, body, rest⟩
  · obtain ⟨subject, index, value, element, checked, _, _, _, rfl, rfl⟩ := open_loop_ok loop
    have sourced : subject.Sourced names := ⟨_, pipe, reached.child, named, checked⟩
    refine ⟨reached.loop index value element, fun inner other frame otherFrame body rest => ?_⟩
    simpa [BranchHead.close, Statement.exprs, or_imp, forall_and] using ⟨sourced, body, rest⟩

mutual

theorem check_node_sources {known : KnownTemplates} : (node : Node) → {scope next : Scope} →
    {statements : List Statement} → scope.Reached → node.named names = true →
    checkNode known scope node = .ok (statements, next) →
    next.Reached ∧ ∀ found ∈ Statement.exprsAll statements, found.Sourced names
  | .text pos content, scope, next, statements, reached, _, checked => by
      simp only [checkNode, Except.ok.injEq, Prod.mk.injEq] at checked
      obtain ⟨rfl, rfl⟩ := checked
      exact ⟨reached, by simp [Statement.exprsAll, Statement.exprs]⟩
  | .comment pos content, scope, next, statements, reached, _, checked => by
      simp only [checkNode, Except.ok.injEq, Prod.mk.injEq] at checked
      obtain ⟨rfl, rfl⟩ := checked
      exact ⟨reached, by simp [Statement.exprsAll]⟩
  | .action pos pipe, scope, next, statements, reached, named, checked => by
      obtain ⟨statement, action, rfl⟩ := check_action_node_ok_iff.mp checked
      have sources := check_action_sources reached named action
      exact ⟨sources.1, by simpa [Statement.exprsAll] using sources.2⟩
  | .template pos name none, scope, next, statements, reached, _, checked => by
      obtain ⟨statement, template, rfl, rfl⟩ := check_template_node_ok_iff.mp checked
      have bare : ∀ context ∈ (none : Option Pipe), context.named names = true := by simp
      have sources := check_template_sources reached bare template
      exact ⟨reached, by simpa [Statement.exprsAll] using sources⟩
  | .template pos name (some pipe), scope, next, statements, reached, named, checked => by
      obtain ⟨statement, template, rfl, rfl⟩ := check_template_node_ok_iff.mp checked
      simp only [Node.named] at named
      have sources := check_template_sources reached (by simpa using named) template
      exact ⟨reached, by simpa [Statement.exprsAll] using sources⟩
  | .branch kind pos pipe ⟨_, body⟩ none, scope, next, statements, reached, named, checked => by
      simp only [Node.named, Block.named, Bool.and_eq_true] at named
      obtain ⟨head, child, inner, innerEnd, other, otherEnd, opened, innerChecked, otherChecked,
        rfl, rfl⟩ := check_branch_ok_iff.mp checked
      obtain ⟨childReached, sources⟩ := open_branch_sources reached named.1 opened
      have body := check_nodes_sources body childReached named.2 innerChecked
      have rest := check_nodes_sources [] reached.child rfl otherChecked
      exact ⟨reached, by simpa [Statement.exprsAll] using sources _ _ _ _ body rest⟩
  | .branch kind pos pipe ⟨_, body⟩ (some ⟨_, otherwise⟩), scope, next, statements, reached, named,
      checked => by
      simp only [Node.named, Block.named, Bool.and_eq_true] at named
      obtain ⟨head, child, inner, innerEnd, other, otherEnd, opened, innerChecked, otherChecked,
        rfl, rfl⟩ := check_branch_ok_iff.mp checked
      obtain ⟨childReached, sources⟩ := open_branch_sources reached named.1.1 opened
      have body := check_nodes_sources body childReached named.1.2 innerChecked
      have rest := check_nodes_sources otherwise reached.child named.2 otherChecked
      exact ⟨reached, by simpa [Statement.exprsAll] using sources _ _ _ _ body rest⟩

theorem check_nodes_sources {known : KnownTemplates} : (nodes : List Node) →
    {scope last : Scope} → {statements : List Statement} → scope.Reached →
    Node.namedAll names nodes = true → checkNodes known scope nodes = .ok (statements, last) →
    ∀ found ∈ Statement.exprsAll statements, found.Sourced names
  | [], scope, last, statements, _, _, checked => by
      simp only [checkNodes, Except.ok.injEq, Prod.mk.injEq] at checked
      rw [← checked.1]
      simp [Statement.exprsAll]
  | node :: rest, scope, last, statements, reached, named, checked => by
      simp only [Node.namedAll, Bool.and_eq_true] at named
      obtain ⟨first, next, more, firstChecked, moreChecked, rfl⟩ :=
        check_nodes_cons_ok_iff.mp checked
      obtain ⟨nextReached, here⟩ := check_node_sources node reached named.1 firstChecked
      rw [exprs_all_append, List.forall_mem_append]
      exact ⟨here, check_nodes_sources rest nextReached named.2 moreChecked⟩

end

theorem check_tree_sources {known : KnownTemplates} {root : Scope} {tree : Tree}
    {checked : CheckedTemplate} (reached : root.Reached) (named : tree.named names = true)
    (accepted : tree.check known root = .ok checked) :
    ∀ found ∈ checked.exprs, found.Sourced names := by
  obtain ⟨last, body, _, _⟩ := check_tree_ok_iff.mp accepted
  obtain ⟨name, text, pos, nodes⟩ := tree
  exact check_nodes_sources nodes reached.child named body

end TemplateScript
