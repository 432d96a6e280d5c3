import TemplateScript.Bundle
import TemplateScript.Proofs.Checked.Typing

/-!
Linking: what a checked template refers to outside of itself exists.

Restricting the names of templates only ever rejects: a tree passes with a list of names exactly
when it passes without one and every template that it renders, at any depth, is in the list. So in
a compiled bundle every rendered template belongs to the bundle. The table of functions only occurs
in calls, and each call names a builtin or a function of the options.
-/
namespace TemplateScript

mutual

def Statement.includes : Statement → List String
  | .text _ | .emit _ | .declare _ _ | .assign _ _ => []
  | .conditional _ _ _ body _ otherwise _ | .loop _ _ _ body _ otherwise _ =>
      Statement.includesAll body ++ Statement.includesAll otherwise
  | .include name _ => [name]

def Statement.includesAll : List Statement → List String
  | [] => []
  | first :: rest => first.includes ++ Statement.includesAll rest

end

def CheckedTemplate.includes (checked : CheckedTemplate) : List String :=
  Statement.includesAll checked.body

mutual

def Statement.exprs : Statement → List Expr
  | .text _ => []
  | .emit value | .declare _ value | .assign _ value => [value]
  | .conditional test _ _ body _ otherwise _ =>
      test :: (Statement.exprsAll body ++ Statement.exprsAll otherwise)
  | .loop subject _ _ body _ otherwise _ =>
      subject :: (Statement.exprsAll body ++ Statement.exprsAll otherwise)
  | .include _ context => context.toList

def Statement.exprsAll : List Statement → List Expr
  | [] => []
  | first :: rest => first.exprs ++ Statement.exprsAll rest

end

def CheckedTemplate.exprs (checked : CheckedTemplate) : List Expr :=
  Statement.exprsAll checked.body

mutual

/-- Every occurrence of the table of functions: the name of the call that it stands in front of, or
nothing where it stands for itself. -/
def Expr.tableUses : Expr → List (Option String)
  | .constant _ _ | .slot _ _ | .context _ => []
  | .globals _ => [none]
  | .field subject _ _ => subject.tableUses
  | .method (.globals _) name args _ => some name :: Expr.tableUsesAll args
  | .method subject _ args _ => subject.tableUses ++ Expr.tableUsesAll args

def Expr.tableUsesAll : List Expr → List (Option String)
  | [] => []
  | first :: rest => first.tableUses ++ Expr.tableUsesAll rest

end

theorem includes_all_append (left right : List Statement) :
    Statement.includesAll (left ++ right) =
      Statement.includesAll left ++ Statement.includesAll right := by
  induction left with
  | nil => rfl
  | cons first rest ih => simp [Statement.includesAll, ih]

theorem includes_close (head : BranchHead) (inner other : List Statement)
    (frame otherFrame : Frame) :
    (head.close inner frame other otherFrame).includes =
      Statement.includesAll inner ++ Statement.includesAll other := by
  cases head <;> simp [BranchHead.close, Statement.includes]

private theorem check_template_linked {names : List String} {scope : Scope} {pos : Offset}
    {name : String} {pipe : Option Pipe} {statement : Statement} :
    checkTemplate (some names) scope pos name pipe = .ok statement ↔
      checkTemplate none scope pos name pipe = .ok statement ∧
        ∀ included ∈ statement.includes, included ∈ names := by
  simp only [check_template_ok_iff, KnownTemplates.admits, List.contains_iff_mem, true_and]
  constructor
  · intro given
    rcases given with ⟨known, cases⟩
    refine ⟨cases, ?_⟩
    rcases cases with ⟨_, rfl⟩ | ⟨_, _, _, _, rfl⟩ <;> simpa [Statement.includes] using known
  · intro given
    rcases given with ⟨cases, known⟩
    refine ⟨?_, cases⟩
    rcases cases with ⟨_, rfl⟩ | ⟨_, _, _, _, rfl⟩ <;> simpa [Statement.includes] using known

private theorem check_action_includes {scope next : Scope} {pos : Offset} {pipe : Pipe}
    {statement : Statement} (checked : checkAction scope pos pipe = .ok (statement, next)) :
    statement.includes = [] := by
  obtain ⟨value, _, ⟨_, rfl, _⟩ | ⟨_, _, ⟨_, _, _, _, rfl⟩ | ⟨_, _, rfl⟩⟩⟩ :=
    check_action_ok checked <;> rfl

private theorem check_branch_linked {names : List String} {scope next : Scope} {kind : BranchKind}
    {pos : Offset} {pipe : Pipe} {body : Block} {otherwise : Option Block}
    {statements : List Statement}
    (bodyLinked : ∀ {scope last : Scope} {found : List Statement},
      checkNodes (some names) scope body.nodes = .ok (found, last) ↔
        checkNodes none scope body.nodes = .ok (found, last) ∧
          ∀ included ∈ Statement.includesAll found, included ∈ names)
    (otherLinked : ∀ {scope last : Scope} {found : List Statement},
      checkNodes (some names) scope (elseNodes otherwise) = .ok (found, last) ↔
        checkNodes none scope (elseNodes otherwise) = .ok (found, last) ∧
          ∀ included ∈ Statement.includesAll found, included ∈ names) :
    checkNode (some names) scope (.branch kind pos pipe body otherwise) = .ok (statements, next) ↔
      checkNode none scope (.branch kind pos pipe body otherwise) = .ok (statements, next) ∧
        ∀ included ∈ Statement.includesAll statements, included ∈ names := by
  simp only [check_branch_ok_iff, bodyLinked, otherLinked]
  constructor
  · intro given
    rcases given with ⟨head, child, inner, innerEnd, other, otherEnd, opened,
      ⟨innerChecked, innerKnown⟩, ⟨otherChecked, otherKnown⟩, rfl, rfl⟩
    refine ⟨⟨head, child, inner, innerEnd, other, otherEnd, opened, innerChecked, otherChecked, rfl,
      rfl⟩, ?_⟩
    simp only [Statement.includesAll, includes_close, List.append_nil, List.mem_append]
    intro included member
    rcases member with inInner | inOther
    · exact innerKnown included inInner
    · exact otherKnown included inOther
  · intro given
    rcases given with ⟨⟨head, child, inner, innerEnd, other, otherEnd, opened, innerChecked,
      otherChecked, rfl, rfl⟩, known⟩
    simp only [Statement.includesAll, includes_close, List.append_nil, List.mem_append] at known
    exact ⟨head, child, inner, innerEnd, other, otherEnd, opened,
      ⟨innerChecked, fun included member => known included (.inl member)⟩,
      ⟨otherChecked, fun included member => known included (.inr member)⟩, rfl, rfl⟩

mutual

theorem check_node_linked {names : List String} : (node : Node) → {scope next : Scope} →
    {statements : List Statement} →
    (checkNode (some names) scope node = .ok (statements, next) ↔
      checkNode none scope node = .ok (statements, next) ∧
        ∀ included ∈ Statement.includesAll statements, included ∈ names)
  | .text pos content, scope, next, statements => by
      simp only [checkNode, Except.ok.injEq, Prod.mk.injEq, iff_self_and]
      intro given
      rcases given with ⟨rfl, _⟩
      simp [Statement.includesAll, Statement.includes]
  | .comment pos content, scope, next, statements => by
      simp only [checkNode, Except.ok.injEq, Prod.mk.injEq, iff_self_and]
      intro given
      rcases given with ⟨rfl, _⟩
      simp [Statement.includesAll]
  | .action pos pipe, scope, next, statements => by
      simp only [check_action_node_ok_iff, iff_self_and]
      intro given
      rcases given with ⟨statement, action, rfl⟩
      simp [Statement.includesAll, check_action_includes action]
  | .template pos name pipe, scope, next, statements => by
      simp only [check_template_node_ok_iff, check_template_linked]
      constructor
      · intro given
        rcases given with ⟨statement, ⟨checked, known⟩, rfl, rfl⟩
        exact ⟨⟨statement, checked, rfl, rfl⟩, by simpa [Statement.includesAll] using known⟩
      · intro given
        rcases given with ⟨⟨statement, checked, rfl, rfl⟩, known⟩
        exact ⟨statement, ⟨checked, by simpa [Statement.includesAll] using known⟩, rfl, rfl⟩
  | .branch kind pos pipe ⟨_, body⟩ none, scope, next, statements =>
      check_branch_linked (check_nodes_linked body) (check_nodes_linked [])
  | .branch kind pos pipe ⟨_, body⟩ (some ⟨_, otherwise⟩), scope, next, statements =>
      check_branch_linked (check_nodes_linked body) (check_nodes_linked otherwise)

theorem check_nodes_linked {names : List String} : (nodes : List Node) → {scope last : Scope} →
    {statements : List Statement} →
    (checkNodes (some names) scope nodes = .ok (statements, last) ↔
      checkNodes none scope nodes = .ok (statements, last) ∧
        ∀ included ∈ Statement.includesAll statements, included ∈ names)
  | [], scope, last, statements => by
      simp only [checkNodes, Except.ok.injEq, Prod.mk.injEq, iff_self_and]
      intro given
      rcases given with ⟨rfl, _⟩
      simp [Statement.includesAll]
  | node :: rest, scope, last, statements => by
      simp only [check_nodes_cons_ok_iff, check_node_linked node, check_nodes_linked rest]
      constructor
      · intro given
        rcases given with
          ⟨first, next, more, ⟨firstChecked, firstKnown⟩, ⟨moreChecked, moreKnown⟩, rfl⟩
        refine ⟨⟨first, next, more, firstChecked, moreChecked, rfl⟩, ?_⟩
        rw [includes_all_append]
        intro included member
        rcases List.mem_append.mp member with inFirst | inMore
        · exact firstKnown included inFirst
        · exact moreKnown included inMore
      · intro given
        rcases given with ⟨⟨first, next, more, firstChecked, moreChecked, rfl⟩, known⟩
        rw [includes_all_append] at known
        exact ⟨first, next, more,
          ⟨firstChecked, fun included member => known included (List.mem_append_left _ member)⟩,
          ⟨moreChecked, fun included member => known included (List.mem_append_right _ member)⟩,
          rfl⟩

end

theorem check_tree_linked (tree : Tree) (root : Scope) (names : List String)
    (checked : CheckedTemplate) :
    tree.check (some names) root = .ok checked ↔
      tree.check none root = .ok checked ∧ ∀ included ∈ checked.includes, included ∈ names := by
  simp only [check_tree_ok_iff, check_nodes_linked, CheckedTemplate.includes]
  constructor
  · intro given
    rcases given with ⟨last, ⟨body, known⟩, name, frame⟩
    exact ⟨⟨last, body, name, frame⟩, known⟩
  · intro given
    rcases given with ⟨⟨last, body, name, frame⟩, known⟩
    exact ⟨last, ⟨body, known⟩, name, frame⟩

/-- Every use of the table of functions is a call of an allowed function. -/
def TableCalls (allowed : String → Prop) (uses : List (Option String)) : Prop :=
  ∀ use ∈ uses, ∃ name, use = some name ∧ allowed name

theorem table_calls_all {allowed : String → Prop} {args : List Expr}
    (each : ∀ arg ∈ args, TableCalls allowed arg.tableUses) :
    TableCalls allowed (Expr.tableUsesAll args) := by
  induction args with
  | nil => simp [TableCalls, Expr.tableUsesAll]
  | cons first rest ih =>
      intro use member
      rcases List.mem_append.mp member with inFirst | inRest
      · exact each first (by simp) use inFirst
      · exact ih (fun arg present => each arg (by simp [present])) use inRest

/-- The table is only typed in front of a call, and calls are of functions that the scope has. -/
theorem typed_table_calls {names : String → Bool} {scope : Scope} {found : Expr}
    {allowed : String → Prop}
    (functions : ∀ ident entry, Scope.lookup (functionKey ident) scope.levels = some entry →
      allowed ident)
    (typed : found.Typed names scope) : TableCalls allowed found.tableUses := by
  induction typed with
  | constant | slot | context => simp [TableCalls, Expr.tableUses]
  | field _ _ _ ih => exact ih
  | @method subject ident name params ret args subjectTyped _ _ ih argsIh =>
      have uses : (Expr.method subject name args ret).tableUses =
          subject.tableUses ++ Expr.tableUsesAll args := by
        cases subjectTyped <;> simp [Expr.tableUses]
      rw [uses]
      intro use member
      rcases List.mem_append.mp member with inSubject | inArgs
      · exact ih use inSubject
      · exact table_calls_all argsIh use inArgs
  | @call ident generated params ret args entry _ argsIh =>
      intro use member
      simp only [Expr.tableUses, List.mem_cons] at member
      rcases member with rfl | inArgs
      · exact ⟨ident, rfl, functions ident _ entry⟩
      · exact table_calls_all argsIh use inArgs

theorem functions_allowed {other scope : Scope} {allowed : String → Prop}
    (same : other.SameFunctions scope)
    (functions : ∀ ident entry, Scope.lookup (functionKey ident) scope.levels = some entry →
      allowed ident) (ident : String) (entry : String × Ty)
    (found : Scope.lookup (functionKey ident) other.levels = some entry) : allowed ident :=
  functions ident entry (by rwa [← same.lookups ident])

/-- From scope to scope the functions stay the same, so one table serves every statement. -/
theorem statements_table_calls {scope last : Scope} {statements : List Statement}
    {allowed : String → Prop}
    (functions : ∀ ident entry, Scope.lookup (functionKey ident) scope.levels = some entry →
      allowed ident)
    (typed : Statements.Typed startsWithDollar scope statements last) :
    ∀ found ∈ Statement.exprsAll statements, TableCalls allowed found.tableUses := by
  induction typed with
  | nil => simp [Statement.exprsAll]
  | text _ ih => simpa [Statement.exprsAll, Statement.exprs] using ih functions
  | emit value _ ih =>
      simpa [Statement.exprsAll, Statement.exprs] using
        ⟨typed_table_calls functions value, ih functions⟩
  | declare value var _ ih =>
      have rest := ih (functions_allowed (Scope.SameFunctions.declare_local var _ _) functions)
      simpa [Statement.exprsAll, Statement.exprs] using
        ⟨typed_table_calls functions value, rest⟩
  | assign value _ _ _ ih =>
      simpa [Statement.exprsAll, Statement.exprs] using
        ⟨typed_table_calls functions value, ih functions⟩
  | conditional test bound _ _ _ bodyIh otherIh ih =>
      have inTest := typed_table_calls functions test
      have inBody := bodyIh
        (functions_allowed (Scope.SameFunctions.conditional bound _ _ _) functions)
      have inOther := otherIh (functions_allowed (Scope.SameFunctions.child _) functions)
      simp only [Statement.exprsAll, Statement.exprs, List.forall_mem_append,
        List.forall_mem_cons]
      exact ⟨⟨inTest, inBody, inOther⟩, ih functions⟩
  | loop subject _ index value _ _ _ bodyIh otherIh ih =>
      have inSubject := typed_table_calls functions subject
      have inBody := bodyIh
        (functions_allowed (Scope.SameFunctions.loop index value _ _) functions)
      have inOther := otherIh (functions_allowed (Scope.SameFunctions.child _) functions)
      simp only [Statement.exprsAll, Statement.exprs, List.forall_mem_append,
        List.forall_mem_cons]
      exact ⟨⟨inSubject, inBody, inOther⟩, ih functions⟩
  | «include» context _ ih =>
      simp only [Statement.exprsAll, Statement.exprs, List.forall_mem_append, Option.mem_toList]
      exact ⟨fun found own => typed_table_calls functions (context found own), ih functions⟩

namespace Bundle

theorem function_types_names {funcs : NameMap Signature} {types : List (String × FunctionType)}
    (extracted : functionTypes funcs = .ok types) : types.map Prod.fst = NameMap.keys funcs := by
  induction funcs generalizing types with
  | nil => rw [← Except.ok.inj extracted]; rfl
  | cons entry rest ih =>
      obtain ⟨name, signature⟩ := entry
      simp only [functionTypes, bind_ok_iff, pure_ok_iff] at extracted
      obtain ⟨function, _, others, othersExtracted, rfl⟩ := extracted
      have tails := ih othersExtracted
      simp only [NameMap.keys] at tails
      simp [NameMap.keys, tails]

theorem extracted_ok_iff {α : Type} {outcome : Except ExtractError α} {value : α} :
    extracted outcome = .ok value ↔ outcome = .ok value := by
  cases outcome <;> simp [extracted]

/-- Every template of a checked bundle is the tree of an entry, checked against the names of the
bundle and some context. -/
theorem check_entries_ok {known : List String} {funcs : List (String × FunctionType)} {root : Ty}
    {entries : List Entry} {templates : List CheckedTemplate}
    (checked : checkEntries known funcs root entries = .ok templates) :
    ∀ template ∈ templates, ∃ entry ∈ entries, ∃ context,
      entry.tree.check (some known) (Scope.base context funcs) = .ok template := by
  induction entries generalizing templates with
  | nil => simp [← Except.ok.inj checked]
  | cons entry rest ih =>
      simp only [checkEntries, bind_ok_iff, pure_ok_iff] at checked
      obtain ⟨first, firstChecked, others, othersChecked, rfl⟩ := checked
      intro template member
      rcases List.mem_cons.mp member with rfl | later
      · simp only [checkEntry, bind_ok_iff] at firstChecked
        obtain ⟨context, _, outcome⟩ := firstChecked
        refine ⟨entry, by simp, context, ?_⟩
        split at outcome
        · next accepted => rw [← Except.ok.inj outcome]; exact accepted
        · cases outcome
      · obtain ⟨own, present, rest⟩ := ih othersChecked template later
        exact ⟨own, by simp [present], rest⟩

theorem check_all_ok {bundle : Bundle} {root : Shape} {templates : List CheckedTemplate}
    (checked : bundle.checkAll root = .ok templates) :
    ∃ funcs, funcs.map Prod.fst = NameMap.keys bundle.options.funcs ∧
      ∀ template ∈ templates, ∃ entry ∈ bundle.entries, ∃ context,
        entry.tree.check (some bundle.names) (Scope.base context funcs) = .ok template := by
  simp only [checkAll, bind_ok_iff, extracted_ok_iff] at checked
  obtain ⟨rootType, _, funcs, types, entries⟩ := checked
  exact ⟨funcs, function_types_names types, check_entries_ok entries⟩

theorem compile_entered {bundle : Bundle} {root : Shape} {script : String}
    (compiled : bundle.compile root = .ok script) :
    ∃ entry templates, bundle.entryName = .ok entry ∧ bundle.checkAll root = .ok templates ∧
      script = assemble bundle.options.prelude entry bundle.names templates := by
  unfold compile at compiled
  split at compiled
  · cases compiled
  · simp only [bind_ok_iff, pure_ok_iff] at compiled
    obtain ⟨entry, entered, templates, checked, rfl⟩ := compiled
    exact ⟨entry, templates, entered, checked, rfl⟩

theorem compile_ok {bundle : Bundle} {root : Shape} {script : String}
    (compiled : bundle.compile root = .ok script) :
    ∃ entry templates, bundle.checkAll root = .ok templates ∧
      script = assemble bundle.options.prelude entry bundle.names templates := by
  obtain ⟨entry, templates, _, assembled⟩ := compile_entered compiled
  exact ⟨entry, templates, assembled⟩

end Bundle

/-- Restricting the names of templates rejects exactly the trees that render a template outside of
them. The script of a bundle is assembled from templates that only render each other and only call
the builtins and the functions of the options. -/
theorem linking_closed :
    (∀ (tree : Tree) (root : Scope) (names : List String) (checked : CheckedTemplate),
      tree.check (some names) root = .ok checked ↔
        tree.check none root = .ok checked ∧ ∀ included ∈ checked.includes, included ∈ names) ∧
    ∀ (bundle : Bundle) (root : Shape) (script : String), bundle.compile root = .ok script →
      ∃ entry templates, bundle.checkAll root = .ok templates ∧
        script = Bundle.assemble bundle.options.prelude entry bundle.names templates ∧
        (∀ template ∈ templates, ∀ included ∈ template.includes, included ∈ bundle.names) ∧
        ((∀ entry ∈ bundle.entries, entry.tree.named startsWithDollar = true) →
          ∀ template ∈ templates, ∀ found ∈ template.exprs,
            TableCalls
              (fun name => name ∈ Builtins.names ∨ name ∈ NameMap.keys bundle.options.funcs)
              found.tableUses) := by
  refine ⟨check_tree_linked, ?_⟩
  intro bundle root script compiled
  obtain ⟨entry, templates, checked, rfl⟩ := Bundle.compile_ok compiled
  obtain ⟨funcs, funcNames, origins⟩ := Bundle.check_all_ok checked
  refine ⟨entry, templates, checked, rfl, ?_, ?_⟩
  · intro template member
    obtain ⟨own, _, context, accepted⟩ := origins template member
    exact ((check_tree_linked own.tree _ bundle.names template).mp accepted).2
  · intro named template member
    obtain ⟨own, present, context, accepted⟩ := origins template member
    obtain ⟨last, typed, _⟩ := check_tree_typed (named own present) accepted
    apply statements_table_calls _ typed
    intro ident entry found
    rw [Scope.lookup_child] at found
    rw [← funcNames]
    exact Scope.lookup_function_base found

def rowsBundle : Bundle where
  options := (Options.default.linked "rt").withFunc "shout" ⟨false, [.string], [.string]⟩
  entries :=
    [⟨⟨"row", "", ⟨0, [.action 0 ⟨0, false, [], [⟨0, [.identifier 0 "shout", .dot 0]⟩]⟩]⟩⟩,
        some .string⟩,
      ⟨⟨"page", "", ⟨0, [.branch .range 0 ⟨0, false, [⟨0, ["$x"]⟩], [⟨0, [.dot 0]⟩]⟩
        ⟨0, [.template 0 "row" (some ⟨0, false, [], [⟨0, [.var ⟨0, ["$x"]⟩]⟩]⟩)]⟩ none]⟩⟩, none⟩]

theorem rows_bundle_linked :
    ∃ script templates, rowsBundle.compile (.sequence .string) = .ok script ∧
      rowsBundle.checkAll (.sequence .string) = .ok templates ∧
      (∀ template ∈ templates, ∀ included ∈ template.includes, included ∈ ["row", "page"]) ∧
      ∀ template ∈ templates, ∀ found ∈ template.exprs,
        TableCalls (fun name => name ∈ Builtins.names ∨ name ∈ ["shout"]) found.tableUses := by
  have succeeds : (rowsBundle.compile (.sequence .string)).toOption.isSome = true := by
    decide +kernel
  obtain ⟨script, compiled⟩ := ok_of_to_option succeeds
  obtain ⟨_, templates, checked, _, included, called⟩ := linking_closed.2 _ _ _ compiled
  exact ⟨script, templates, compiled, checked, included, called (by decide)⟩

end TemplateScript
