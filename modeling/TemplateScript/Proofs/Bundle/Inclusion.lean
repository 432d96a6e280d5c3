import Mathlib.Data.List.Forall2
import TemplateScript.Proofs.Bundle.Entry
import TemplateScript.Proofs.Scope.Arms

/-!
What an included template is given.

A template of a bundle is checked against its own shape or against that of the root. Where another
template includes it, the pipeline of that place is checked on its own: its value is handed over
whatever its type is, and a place without a pipeline hands over nothing. So the includes of a
checked template answer the template nodes of its tree one for one, each with the type that its
pipeline has there. The dot has the type of the innermost block that rebinds it.
-/
namespace TemplateScript

/-- The type of the dot in the body that a head opens. -/
def BranchHead.dot (dot : Ty) : BranchHead → Ty
  | .conditional test true _ => test.ty
  | .conditional _ false _ => dot
  | .loop subject _ _ =>
      match subject.ty with
      | .array element => element
      | _ => dot

structure Inclusion where
  dot : Ty
  name : String
  context : Option Expr

def Inclusion.handed (inclusion : Inclusion) : Option Ty :=
  inclusion.context.map Expr.ty

mutual

def Statement.inclusions (dot : Ty) : Statement → List Inclusion
  | .text _ | .emit _ | .declare _ _ | .assign _ _ => []
  | .conditional test rebinds bound body _ otherwise _ =>
      Statement.inclusionsAll ((BranchHead.conditional test rebinds bound).dot dot) body ++
        Statement.inclusionsAll dot otherwise
  | .loop subject index value body _ otherwise _ =>
      Statement.inclusionsAll ((BranchHead.loop subject index value).dot dot) body ++
        Statement.inclusionsAll dot otherwise
  | .include name context => [⟨dot, name, context⟩]

def Statement.inclusionsAll (dot : Ty) : List Statement → List Inclusion
  | [] => []
  | first :: rest => first.inclusions dot ++ Statement.inclusionsAll dot rest

end

def CheckedTemplate.inclusions (context : Ty) (checked : CheckedTemplate) : List Inclusion :=
  Statement.inclusionsAll context checked.body

structure TemplateCall where
  place : Scope
  name : String
  pipe : Option Pipe

mutual

/-- The template nodes at any depth, in the scopes that the checker has for them. -/
def Node.calls (known : KnownTemplates) (scope : Scope) : Node → List TemplateCall
  | .text _ _ | .comment _ _ | .action _ _ => []
  | .branch kind pos pipe body otherwise =>
      let render := fun _ => (Node.branch kind pos pipe body otherwise).render
      match openBranch scope kind pos pipe render with
      | .ok (_, child) =>
          body.calls known child ++
            match otherwise with
            | none => []
            | some block => block.calls known scope.child
      | .error _ => []
  | .template _ name pipe => [⟨scope, name, pipe⟩]

def Node.callsAll (known : KnownTemplates) (scope : Scope) : List Node → List TemplateCall
  | [] => []
  | node :: rest =>
      node.calls known scope ++
        match checkNode known scope node with
        | .ok (_, next) => Node.callsAll known next rest
        | .error _ => []

def Block.calls (known : KnownTemplates) (scope : Scope) : Block → List TemplateCall
  | ⟨_, nodes⟩ => Node.callsAll known scope nodes

end

def Tree.calls (known : KnownTemplates) (root : Scope) (tree : Tree) : List TemplateCall :=
  tree.root.calls known root.child

/-- An include stands for a template node: it hands over what the pipeline is checked to in the
scope of the node, and nothing where there is no pipeline. -/
def TemplateCall.Answered (call : TemplateCall) (inclusion : Inclusion) : Prop :=
  inclusion.dot = call.place.context ∧ inclusion.name = call.name ∧
    match call.pipe with
    | none => inclusion.context = none
    | some pipe => ∃ value, checkPipe call.place pipe = .ok value ∧ inclusion.context = some value

theorem open_branch_dot {scope child : Scope} {kind : BranchKind} {pos : Offset} {pipe : Pipe}
    {render : Unit → String} {head : BranchHead}
    (opened : openBranch scope kind pos pipe render = .ok (head, child)) :
    child.context = head.dot scope.context := by
  obtain ⟨_, ⟨_, conditional⟩ | ⟨_, loop⟩⟩ := open_branch_ok opened
  · obtain ⟨test, bound, _, _, rfl, rfl⟩ := open_conditional_ok conditional
    cases decide (kind = .with) <;> simp [conditionalScope, BranchHead.dot]
  · obtain ⟨subject, index, value, element, _, array, _, _, rfl, rfl⟩ := open_loop_ok loop
    simp [loopScope, BranchHead.dot, array]

theorem check_action_inclusions {scope next : Scope} {pos : Offset} {pipe : Pipe}
    {statement : Statement} (checked : checkAction scope pos pipe = .ok (statement, next))
    (dot : Ty) : statement.inclusions dot = [] ∧ next.context = scope.context := by
  obtain ⟨value, _, ⟨_, rfl, rfl⟩ | ⟨_, _, ⟨_, rfl, _, _, rfl⟩ | ⟨_, rfl, rfl⟩⟩⟩ :=
    check_action_ok checked <;> exact ⟨rfl, rfl⟩

theorem inclusions_all_append (dot : Ty) (left right : List Statement) :
    Statement.inclusionsAll dot (left ++ right) =
      Statement.inclusionsAll dot left ++ Statement.inclusionsAll dot right := by
  induction left with
  | nil => rfl
  | cons first rest ih => simp [Statement.inclusionsAll, ih]

theorem inclusions_close (dot : Ty) (head : BranchHead) (inner other : List Statement)
    (frame otherFrame : Frame) :
    (head.close inner frame other otherFrame).inclusions dot =
      Statement.inclusionsAll (head.dot dot) inner ++ Statement.inclusionsAll dot other := by
  cases head <;> rfl

mutual

theorem inclusions_names (dot : Ty) : (statement : Statement) →
    (statement.inclusions dot).map Inclusion.name = statement.includes
  | .text _ | .emit _ | .declare _ _ | .assign _ _ | .include _ _ => rfl
  | .conditional _ _ _ body _ otherwise _ | .loop _ _ _ body _ otherwise _ => by
      rw [Statement.inclusions, List.map_append, inclusions_all_names _ body,
        inclusions_all_names _ otherwise, Statement.includes]

theorem inclusions_all_names (dot : Ty) : (statements : List Statement) →
    (Statement.inclusionsAll dot statements).map Inclusion.name = Statement.includesAll statements
  | [] => rfl
  | first :: rest => by
      rw [Statement.inclusionsAll, List.map_append, inclusions_names dot first,
        inclusions_all_names dot rest, Statement.includesAll]

end

theorem check_template_answered {known : KnownTemplates} {scope : Scope} {pos : Offset}
    {name : String} {pipe : Option Pipe} {statement : Statement}
    (checked : checkTemplate known scope pos name pipe = .ok statement) :
    List.Forall₂ TemplateCall.Answered [⟨scope, name, pipe⟩]
      (statement.inclusions scope.context) := by
  obtain ⟨_, ⟨rfl, rfl⟩ | ⟨context, value, rfl, valued, rfl⟩⟩ := check_template_ok_iff.mp checked
  · exact .cons ⟨rfl, rfl, rfl⟩ .nil
  · exact .cons ⟨rfl, rfl, value, valued, rfl⟩ .nil

theorem block_calls (known : KnownTemplates) (scope : Scope) (block : Block) :
    block.calls known scope = Node.callsAll known scope block.nodes := by
  cases block
  rfl

theorem branch_calls {known : KnownTemplates} {scope child : Scope} {kind : BranchKind}
    {pos : Offset} {pipe : Pipe} {body : Block} {otherwise : Option Block} {head : BranchHead}
    (opened : openBranch scope kind pos pipe
      (fun _ => (Node.branch kind pos pipe body otherwise).render) = .ok (head, child)) :
    (Node.branch kind pos pipe body otherwise).calls known scope =
      Node.callsAll known child body.nodes ++
        Node.callsAll known scope.child (elseNodes otherwise) := by
  cases otherwise with
  | none => simp only [Node.calls, opened, block_calls, elseNodes, Node.callsAll]
  | some block => simp only [Node.calls, opened, block_calls, elseNodes]

/-- One block: the arms answer their own template nodes, each in the scope that it is checked in. -/
theorem check_branch_answered {known : KnownTemplates} {scope next : Scope} {kind : BranchKind}
    {pos : Offset} {pipe : Pipe} {body : Block} {otherwise : Option Block}
    {statements : List Statement}
    (bodyAnswered : ∀ {scope last : Scope} {found : List Statement},
      checkNodes known scope body.nodes = .ok (found, last) →
        List.Forall₂ TemplateCall.Answered (Node.callsAll known scope body.nodes)
          (Statement.inclusionsAll scope.context found))
    (otherAnswered : ∀ {scope last : Scope} {found : List Statement},
      checkNodes known scope (elseNodes otherwise) = .ok (found, last) →
        List.Forall₂ TemplateCall.Answered (Node.callsAll known scope (elseNodes otherwise))
          (Statement.inclusionsAll scope.context found))
    (checked : checkNode known scope (.branch kind pos pipe body otherwise) =
      .ok (statements, next)) :
    next.context = scope.context ∧
      List.Forall₂ TemplateCall.Answered
        ((Node.branch kind pos pipe body otherwise).calls known scope)
        (Statement.inclusionsAll scope.context statements) := by
  obtain ⟨head, child, inner, innerEnd, other, otherEnd, opened, innerChecked, otherChecked, rfl,
    rfl⟩ := check_branch_ok_iff.mp checked
  refine ⟨rfl, ?_⟩
  have innerAnswered := bodyAnswered innerChecked
  rw [open_branch_dot opened] at innerAnswered
  have arms := List.rel_append innerAnswered (otherAnswered otherChecked)
  rw [branch_calls opened]
  simpa [Statement.inclusionsAll, inclusions_close] using arms

mutual

theorem check_node_answered {known : KnownTemplates} : (node : Node) → {scope next : Scope} →
    {statements : List Statement} → checkNode known scope node = .ok (statements, next) →
    next.context = scope.context ∧
      List.Forall₂ TemplateCall.Answered (node.calls known scope)
        (Statement.inclusionsAll scope.context statements)
  | .text pos content, scope, next, statements, checked => by
      simp only [checkNode, Except.ok.injEq, Prod.mk.injEq] at checked
      obtain ⟨rfl, rfl⟩ := checked
      exact ⟨rfl, .nil⟩
  | .comment pos content, scope, next, statements, checked => by
      simp only [checkNode, Except.ok.injEq, Prod.mk.injEq] at checked
      obtain ⟨rfl, rfl⟩ := checked
      exact ⟨rfl, .nil⟩
  | .action pos pipe, scope, next, statements, checked => by
      obtain ⟨statement, action, rfl⟩ := check_action_node_ok_iff.mp checked
      obtain ⟨none, kept⟩ := check_action_inclusions action scope.context
      simp [Statement.inclusionsAll, none, kept, Node.calls]
  | .template pos name pipe, scope, next, statements, checked => by
      obtain ⟨statement, template, rfl, rfl⟩ := check_template_node_ok_iff.mp checked
      have answered := check_template_answered template
      simpa [Statement.inclusionsAll, Node.calls] using answered
  | .branch kind pos pipe ⟨_, body⟩ none, scope, next, statements, checked =>
      check_branch_answered (check_nodes_answered body) (check_nodes_answered []) checked
  | .branch kind pos pipe ⟨_, body⟩ (some ⟨_, otherwise⟩), scope, next, statements, checked =>
      check_branch_answered (check_nodes_answered body) (check_nodes_answered otherwise) checked

theorem check_nodes_answered {known : KnownTemplates} : (nodes : List Node) →
    {scope last : Scope} → {statements : List Statement} →
    checkNodes known scope nodes = .ok (statements, last) →
    List.Forall₂ TemplateCall.Answered (Node.callsAll known scope nodes)
      (Statement.inclusionsAll scope.context statements)
  | [], scope, last, statements, checked => by
      simp only [checkNodes, Except.ok.injEq, Prod.mk.injEq] at checked
      obtain ⟨rfl, rfl⟩ := checked
      exact .nil
  | node :: rest, scope, last, statements, checked => by
      obtain ⟨first, next, more, firstChecked, moreChecked, rfl⟩ :=
        check_nodes_cons_ok_iff.mp checked
      obtain ⟨kept, firstAnswered⟩ := check_node_answered node firstChecked
      have moreAnswered := check_nodes_answered rest moreChecked
      -- a node may declare variables for the later ones, but it leaves them the dot
      rw [kept] at moreAnswered
      rw [Node.callsAll, firstChecked, inclusions_all_append]
      exact List.rel_append firstAnswered moreAnswered

end

theorem check_tree_answered {known : KnownTemplates} {root : Scope} {tree : Tree}
    {checked : CheckedTemplate} (accepted : tree.check known root = .ok checked) :
    List.Forall₂ TemplateCall.Answered (tree.calls known root)
      (checked.inclusions root.context) := by
  obtain ⟨last, body, _, _⟩ := check_tree_ok_iff.mp accepted
  rw [Tree.calls, block_calls]
  exact check_nodes_answered tree.root.nodes body

/-- A pipeline that comes to the dot has the type of the dot. -/
theorem check_pipe_dot {scope : Scope} {pipe : Pipe} {ty : Ty}
    (checked : checkPipe scope pipe = .ok (.context ty)) : ty = scope.context := by
  have typed := check_pipe_typed pipe pipe.named_any checked
  cases typed
  rfl

theorem TemplateCall.Answered.dot {call : TemplateCall} {inclusion : Inclusion} {ty : Ty}
    (answered : call.Answered inclusion) (dotted : inclusion.context = some (.context ty)) :
    ty = inclusion.dot := by
  obtain ⟨same, _, handed⟩ := answered
  rw [same]
  cases given : call.pipe with
  | none => simp [given, dotted] at handed
  | some pipe =>
      simp only [given, dotted, Option.some.injEq] at handed
      obtain ⟨value, checked, rfl⟩ := handed
      exact check_pipe_dot checked

namespace Bundle

/-- The template of a call is checked against the type of its own data: that of its own shape if it
was added with one, and that of the root if not. -/
def Addition.CheckedAs (names : List String) (funcs : List (String × FunctionType)) (root : Ty)
    (addition : Addition) (context : Ty) (checked : CheckedTemplate) : Prop :=
  contextType root addition.entry = .ok context ∧
    addition.entry.tree.check (some names) (Scope.base context funcs) = .ok checked

theorem check_entries_each {names : List String} {funcs : List (String × FunctionType)} {root : Ty}
    {additions : List Addition} {templates : List CheckedTemplate}
    (checked : checkEntries names funcs root (additions.map Addition.entry) = .ok templates) :
    List.Forall₂ (fun addition template => ∃ context,
      addition.CheckedAs names funcs root context template) additions templates := by
  induction additions generalizing templates with
  | nil =>
      cases checked
      exact .nil
  | cons addition rest ih =>
      simp only [List.map_cons, checkEntries, bind_ok_iff, pure_ok_iff] at checked
      obtain ⟨first, firstChecked, others, othersChecked, rfl⟩ := checked
      simp only [checkEntry, bind_ok_iff] at firstChecked
      obtain ⟨context, typed, outcome⟩ := firstChecked
      refine .cons ⟨context, typed, ?_⟩ (ih othersChecked)
      split at outcome
      · next accepted =>
          rw [← Except.ok.inj outcome]
          exact accepted
      · cases outcome

theorem mem_latest {name : String} {history : List Addition} {addition : Addition}
    (last : lastFor? name history = some addition) : addition ∈ latest history := by
  have added : addition ∈ history := (List.mem_filter.mp (List.mem_of_getLast? last)).1
  have known : name ∈ firstNames history :=
    mem_first_names.mpr (List.mem_map.mpr ⟨addition, added, last_for_name last⟩)
  exact List.mem_filterMap.mpr ⟨name, known, last⟩

theorem exists_related {α β : Type} {R : α → β → Prop} {left : List α} {right : List β}
    (all : List.Forall₂ R left right) {item : α} (member : item ∈ left) :
    ∃ other ∈ right, R item other := by
  induction all with
  | nil => cases member
  | cons first _ ih =>
      rcases List.mem_cons.mp member with rfl | later
      · exact ⟨_, List.mem_cons_self, first⟩
      · obtain ⟨other, present, related⟩ := ih later
        exact ⟨other, List.mem_cons_of_mem _ present, related⟩

/-- In a compiled bundle the includes of each template answer its template nodes. What they name is
a template of the bundle, which was checked against the type of its own data. Nothing ties the two:
an include that hands over the dot gives that template what it was checked against exactly where the
dot has this type. -/
theorem inclusions_answered {options : Options} {history : List Addition} {root : Shape}
    {script : String} (compiled : (after options history).compile root = .ok script) :
    ∃ rootTy funcs templates, root.extract = .ok rootTy ∧ options.functionTypes = .ok funcs ∧
      (after options history).checkAll root = .ok templates ∧
      List.Forall₂ (fun addition checked => ∃ context,
          addition.CheckedAs (firstNames history) funcs rootTy context checked ∧
          List.Forall₂ TemplateCall.Answered
            (addition.entry.tree.calls (some (firstNames history)) (Scope.base context funcs))
            (checked.inclusions context) ∧
          ∀ inclusion ∈ checked.inclusions context,
            ∃ target expected, ∃ other ∈ templates,
              lastFor? inclusion.name history = some target ∧
              target.CheckedAs (firstNames history) funcs rootTy expected other ∧
              ∀ ty, inclusion.context = some (.context ty) →
                (inclusion.handed = some expected ↔ inclusion.dot = expected))
        (latest history) templates := by
  obtain ⟨entry, templates, _, checked, _⟩ := compile_entered compiled
  have parts := checked
  simp only [checkAll, bind_ok_iff, extracted_ok_iff, names_after] at parts
  rw [after_eq] at parts
  obtain ⟨rootTy, rootTyped, funcs, funcsTyped, entries⟩ := parts
  have each := check_entries_each entries
  refine ⟨rootTy, funcs, templates, rootTyped, funcsTyped, checked, each.imp ?_⟩
  rintro addition template ⟨context, typed, accepted⟩
  have answered := check_tree_answered accepted
  refine ⟨context, ⟨typed, accepted⟩, answered, ?_⟩
  intro inclusion member
  have included : inclusion.name ∈ template.includes := by
    rw [CheckedTemplate.includes, ← inclusions_all_names context]
    exact List.mem_map_of_mem member
  have known := ((check_tree_linked _ _ _ _).mp accepted).2 _ included
  -- the target is the last call for its name, and that call was checked along with this one
  obtain ⟨target, last⟩ := last_for_exists known
  obtain ⟨other, present, expected, own⟩ := exists_related each (mem_latest last)
  refine ⟨target, expected, other, present, last, own, ?_⟩
  intro ty dotted
  have turned := List.Forall₂.flip (R := flip TemplateCall.Answered) answered
  obtain ⟨call, _, ofCall⟩ := exists_related turned member
  have here : ty = inclusion.dot := TemplateCall.Answered.dot ofCall dotted
  simp [Inclusion.handed, dotted, Expr.ty, here]

def rowTemplate : Tree :=
  ⟨"row", "", ⟨0, [.action 0 ⟨0, false, [], [⟨0, [.field 0 ["Name"]]⟩]⟩]⟩⟩

def rowShape : Shape :=
  .record none [⟨"Name", .string, none⟩] []

def rowTy : Ty :=
  .object [("Name", .string)] []

def dotPipe : Pipe :=
  ⟨0, false, [], [⟨0, [.dot 0]⟩]⟩

def rowsHistory : List Addition :=
  [.typed rowTemplate rowShape,
    .plain ⟨"page", "",
      ⟨0, [.branch .range 0 dotPipe ⟨0, [.template 0 "row" (some dotPipe)]⟩ none]⟩⟩]

theorem rows_answered :
    ∃ script templates page,
      (after linkedOptions rowsHistory).compile (.sequence rowShape) = .ok script ∧
      (after linkedOptions rowsHistory).checkAll (.sequence rowShape) = .ok templates ∧
      page ∈ templates ∧
      page.inclusions (.array rowTy) = [⟨rowTy, "row", some (.context rowTy)⟩] ∧
      ∃ row ∈ templates, Addition.CheckedAs ["row", "page"] [] (.array rowTy)
        (.typed rowTemplate rowShape) rowTy row := by
  have succeeds :
      ((after linkedOptions rowsHistory).compile (.sequence rowShape)).toOption.isSome = true := by
    decide +kernel
  obtain ⟨script, compiled⟩ := ok_of_to_option succeeds
  obtain ⟨rootTy, funcs, templates, rootTyped, funcsTyped, checked, each⟩ :=
    inclusions_answered compiled
  obtain rfl : .array rowTy = rootTy := Except.ok.inj rootTyped
  obtain rfl : [] = funcs := Except.ok.inj funcsTyped
  have all : latest rowsHistory = rowsHistory := rfl
  rw [all] at each
  obtain ⟨row, _, ⟨rowContext, rowChecked, _⟩, later, rfl⟩ := List.forall₂_cons_left_iff.mp each
  obtain ⟨page, _, ⟨context, ⟨pageTyped, _⟩, answered, _⟩, none, rfl⟩ :=
    List.forall₂_cons_left_iff.mp later
  cases none
  obtain rfl : rowTy = rowContext := Except.ok.inj rowChecked.1
  obtain rfl : .array rowTy = context := Except.ok.inj pageTyped
  refine ⟨script, [row, page], page, compiled, checked, by simp, ?_, row, by simp, rowChecked⟩
  obtain ⟨inclusion, _, ⟨dot, name, value, valued, handed⟩, none, same⟩ :=
    List.forall₂_cons_left_iff.mp answered
  cases none
  cases valued
  obtain ⟨_, _, _⟩ := inclusion
  cases dot
  cases name
  cases handed
  exact same

/-- A page that hands a text to the row, and then nothing at all. -/
def mismatchedHistory : List Addition :=
  [.typed rowTemplate rowShape,
    .plain ⟨"page", "", ⟨0, [.template 0 "row" (some dotPipe), .template 0 "row" none]⟩⟩]

def checkedRow : CheckedTemplate :=
  ⟨"row", [.emit (.field (.context rowTy) "Name" .string)], ⟨rowTy, []⟩⟩

def checkedPage : CheckedTemplate :=
  ⟨"page", [.include "row" (some (.context .string)), .include "row" none], ⟨.string, []⟩⟩

/-- The bundle compiles, and neither include hands over what the row was checked against. -/
theorem mismatched_rows_compile :
    (∃ script, (after linkedOptions mismatchedHistory).compile .string = .ok script) ∧
      (after linkedOptions mismatchedHistory).checkAll .string = .ok [checkedRow, checkedPage] ∧
      checkedPage.includes = ["row", "row"] ∧
      lastFor? "row" mismatchedHistory = some (.typed rowTemplate rowShape) ∧
      Addition.CheckedAs ["row", "page"] [] .string (.typed rowTemplate rowShape) rowTy
        checkedRow ∧
      ∀ inclusion ∈ checkedPage.inclusions .string, inclusion.handed ≠ some rowTy := by
  have succeeds :
      ((after linkedOptions mismatchedHistory).compile .string).toOption.isSome = true := by
    decide +kernel
  refine ⟨ok_of_to_option succeeds, rfl, rfl, rfl, ⟨rfl, rfl⟩, ?_⟩
  have listed : checkedPage.inclusions .string =
      [⟨.string, "row", some (.context .string)⟩, ⟨.string, "row", none⟩] := rfl
  rw [listed]
  simp [Inclusion.handed, Expr.ty, rowTy]

end Bundle

end TemplateScript
