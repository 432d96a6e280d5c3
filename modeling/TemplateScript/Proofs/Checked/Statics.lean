import Mathlib.Data.List.Forall2
import TemplateScript.Proofs.Checked.Typing
import TemplateScript.Proofs.Scope.Arms

/-!
The types that a checked template records.

Members are read off objects that have them, functions are called for what they return, the dot has
the type of the innermost frame around it, and the frames of a block are those of its test or of its
subject. An assigned value has the type that the variable was last declared with. The declarations
in sight are followed here from what the statements record alone, without the scopes of the checker.
-/
namespace TemplateScript

def Ty.HasMember (subject : Ty) (name : String) (ty : Ty) : Prop :=
  ∃ fields labels ident, subject = .object fields labels ∧ NameMap.get? ident fields = some ty ∧
    Ty.label labels ident = name

mutual

/-- An expression with all that it is made of. -/
def Expr.parts : Expr → List Expr
  | .constant value ty => [.constant value ty]
  | .field subject name ty => .field subject name ty :: subject.parts
  | .method subject name args ty =>
      .method subject name args ty :: (subject.parts ++ Expr.partsAll args)
  | .slot name ty => [.slot name ty]
  | .context ty => [.context ty]
  | .globals ty => [.globals ty]

def Expr.partsAll : List Expr → List Expr
  | [] => []
  | first :: rest => first.parts ++ Expr.partsAll rest

end

/-- The type of an expression is what its subject and the dot make it. -/
def Expr.Consistent (dot : Ty) : Expr → Prop
  | .constant value ty => ty = value.ty
  | .field subject name ty =>
      subject.ty.HasMember name ty ∧ ∀ params ret, ty ≠ .function params ret
  | .method subject name _ ty => ∃ params, subject.ty.HasMember name (.function params (some ty))
  | .context ty => ty = dot
  | .slot _ _ | .globals _ => True

/-- The expressions of a statement itself, without those of the statements in its arms. -/
def Statement.values : Statement → List Expr
  | .text _ => []
  | .emit value | .declare _ value | .assign _ value => [value]
  | .conditional test _ _ _ _ _ _ => [test]
  | .loop subject _ _ _ _ _ _ => [subject]
  | .include _ context => context.toList

/-- The frames of a block go with what opens it. -/
def Statement.Framed (dot : Ty) : Statement → Prop
  | .conditional test rebinds _ _ frame _ otherFrame =>
      frame.context = (if rebinds then test.ty else dot) ∧ otherFrame.context = dot
  | .loop subject _ _ _ frame _ otherFrame =>
      subject.ty = .array frame.context ∧ otherFrame.context = dot
  | .text _ | .emit _ | .declare _ _ | .assign _ _ | .include _ _ => True

/-- A statement at any depth, with the context of the innermost frame around it. -/
structure FramedStatement where
  dot : Ty
  statement : Statement

mutual

def Statement.framed (dot : Ty) : Statement → List FramedStatement
  | .conditional test rebinds bound body frame otherwise otherFrame =>
      ⟨dot, .conditional test rebinds bound body frame otherwise otherFrame⟩ ::
        (Statement.framedAll frame.context body ++
          Statement.framedAll otherFrame.context otherwise)
  | .loop subject index value body frame otherwise otherFrame =>
      ⟨dot, .loop subject index value body frame otherwise otherFrame⟩ ::
        (Statement.framedAll frame.context body ++
          Statement.framedAll otherFrame.context otherwise)
  | .text content => [⟨dot, .text content⟩]
  | .emit value => [⟨dot, .emit value⟩]
  | .declare name value => [⟨dot, .declare name value⟩]
  | .assign name value => [⟨dot, .assign name value⟩]
  | .include name context => [⟨dot, .include name context⟩]

def Statement.framedAll (dot : Ty) : List Statement → List FramedStatement
  | [] => []
  | first :: rest => first.framed dot ++ Statement.framedAll dot rest

end

def CheckedTemplate.framed (checked : CheckedTemplate) : List FramedStatement :=
  Statement.framedAll checked.frame.context checked.body

def FramedStatement.Consistent (place : FramedStatement) : Prop :=
  place.statement.Framed place.dot ∧
    ∀ value ∈ place.statement.values, ∀ part ∈ value.parts, part.Consistent place.dot

/-- What one level declares, the latest first: names, each with its generated name and its type. -/
abbrev Declared := List (String × String × Ty)

def Declared.latest? (name : String) (levels : List Declared) : Option (String × Ty) :=
  levels.findSome? (NameMap.get? name)

/-- Parameters of a block keep their names. -/
def Declared.parameter (name : Option String) (ty : Ty) : Declared :=
  name.toList.map fun own => (own, own, ty)

def Level.declared (level : Level) : Declared :=
  level.bindings.map fun (name, ty) => (name, level.generatedName name, ty)

/-- The statements of nodes behind declarations. An assignment is to what was declared last under
the name, and its value has the type that was declared. -/
inductive Declared.Followed : List Declared → List Node → List Statement → Prop
  | nil {levels : List Declared} : Followed levels [] []
  | text {levels : List Declared} {nodes : List Node} {statements : List Statement} {pos : Offset}
      {content : String} :
      Followed levels nodes statements →
      Followed levels (.text pos content :: nodes) (.text content :: statements)
  | comment {levels : List Declared} {nodes : List Node} {statements : List Statement}
      {pos : Offset} {content : String} :
      Followed levels nodes statements →
      Followed levels (.comment pos content :: nodes) statements
  | emit {levels : List Declared} {nodes : List Node} {statements : List Statement} {pos : Offset}
      {pipe : Pipe} {value : Expr} :
      pipe.targets = [] → Followed levels nodes statements →
      Followed levels (.action pos pipe :: nodes) (.emit value :: statements)
  | declare {level : Declared} {outer : List Declared} {nodes : List Node}
      {statements : List Statement} {pos : Offset} {pipe : Pipe} {name generated : String}
      {value : Expr} :
      pipe.assigns = false → pipe.targets.map Variable.ident = [[name]] →
      Followed (((name, generated, value.ty) :: level) :: outer) nodes statements →
      Followed (level :: outer) (.action pos pipe :: nodes) (.declare generated value :: statements)
  | assign {levels : List Declared} {nodes : List Node} {statements : List Statement}
      {pos : Offset} {pipe : Pipe} {name generated : String} {value : Expr} :
      pipe.assigns = true → pipe.targets.map Variable.ident = [[name]] →
      latest? name levels = some (generated, value.ty) → Followed levels nodes statements →
      Followed levels (.action pos pipe :: nodes) (.assign generated value :: statements)
  | conditional {levels : List Declared} {nodes : List Node} {statements : List Statement}
      {kind : BranchKind} {pos : Offset} {pipe : Pipe} {block : Block} {otherwise : Option Block}
      {test : Expr} {rebinds : Bool} {bound : Option String} {body other : List Statement}
      {frame otherFrame : Frame} :
      pipe.targets.map Variable.ident = bound.toList.map (fun name => [name]) →
      Followed (parameter bound test.ty :: levels) block.nodes body →
      Followed ([] :: levels) (elseNodes otherwise) other → Followed levels nodes statements →
      Followed levels (.branch kind pos pipe block otherwise :: nodes)
        (.conditional test rebinds bound body frame other otherFrame :: statements)
  | loop {levels : List Declared} {nodes : List Node} {statements : List Statement}
      {kind : BranchKind} {pos : Offset} {pipe : Pipe} {block : Block} {otherwise : Option Block}
      {subject : Expr} {element : Ty} {index value : Option String} {body other : List Statement}
      {frame otherFrame : Frame} :
      pipe.targets.map Variable.ident =
        (index.toList ++ value.toList).map (fun name => [name]) →
      subject.ty = .array element →
      Followed ((parameter value element ++ parameter index .number) :: levels) block.nodes body →
      Followed ([] :: levels) (elseNodes otherwise) other → Followed levels nodes statements →
      Followed levels (.branch kind pos pipe block otherwise :: nodes)
        (.loop subject index value body frame other otherFrame :: statements)
  | «include» {levels : List Declared} {nodes : List Node} {statements : List Statement}
      {pos : Offset} {name : String} {pipe : Option Pipe} {context : Option Expr} :
      Followed levels nodes statements →
      Followed levels (.template pos name pipe :: nodes) (.include name context :: statements)

section Types

variable {names : String → Bool}

theorem parts_all_mem {args : List Expr} {part : Expr} :
    part ∈ Expr.partsAll args ↔ ∃ arg ∈ args, part ∈ arg.parts := by
  induction args with
  | nil => simp [Expr.partsAll]
  | cons first rest ih => simp [Expr.partsAll, ih]

theorem field_named_member {subject ty : Ty} {ident name : String}
    (named : subject.fieldNamed ident = .ok (name, ty)) : subject.HasMember name ty := by
  cases subject with
  | object fields labels =>
      simp only [Ty.fieldNamed] at named
      split at named
      · next found =>
          simp only [Except.ok.injEq, Prod.mk.injEq] at named
          obtain ⟨rfl, rfl⟩ := named
          exact ⟨fields, labels, ident, rfl, found, rfl⟩
      · cases named
  | _ => cases named

theorem Expr.Typed.consistent {scope : Scope} {value : Expr} (typed : value.Typed names scope) :
    ∀ part ∈ value.parts, part.Consistent scope.context := by
  induction typed with
  | constant value => simp [Expr.parts, Expr.Consistent]
  | field _ named plain ih =>
      simp only [Expr.parts, List.forall_mem_cons]
      exact ⟨⟨field_named_member named, plain⟩, ih⟩
  | @method subject ident name params ret args _ named _ ih argsIh =>
      simp only [Expr.parts, List.forall_mem_cons, List.forall_mem_append]
      refine ⟨⟨params, field_named_member named⟩, ih, ?_⟩
      intro part member
      obtain ⟨arg, present, inside⟩ := parts_all_mem.mp member
      exact argsIh arg present part inside
  | @call ident generated params ret args entry _ argsIh =>
      simp only [Expr.parts, List.forall_mem_cons, List.forall_mem_append]
      refine ⟨⟨params, field_named_member (Scope.globals_field entry)⟩, ?_, ?_⟩
      · simp [Expr.Consistent]
      · intro part member
        obtain ⟨arg, present, inside⟩ := parts_all_mem.mp member
        exact argsIh arg present part inside
  | slot _ _ => simp [Expr.parts, Expr.Consistent]
  | context => simp [Expr.parts, Expr.Consistent]

theorem Statements.Typed.context {scope last : Scope} {statements : List Statement}
    (typed : Statements.Typed names scope statements last) : last.context = scope.context := by
  induction typed with
  | nil => rfl
  | text _ ih | emit _ _ ih | declare _ _ _ ih | assign _ _ _ _ ih | «include» _ _ ih => exact ih
  | conditional _ _ _ _ _ _ _ ih => exact ih
  | loop _ _ _ _ _ _ _ _ _ ih => exact ih

theorem Statements.Typed.consistent {scope last : Scope} {statements : List Statement}
    (typed : Statements.Typed names scope statements last) :
    ∀ place ∈ Statement.framedAll scope.context statements, place.Consistent := by
  induction typed with
  | nil => simp [Statement.framedAll]
  | text _ ih =>
      simp only [Statement.framedAll, Statement.framed, List.singleton_append,
        List.forall_mem_cons]
      exact ⟨⟨trivial, by simp [Statement.values]⟩, ih⟩
  | emit value _ ih | declare value _ _ ih | assign value _ _ _ ih =>
      simp only [Statement.framedAll, Statement.framed, List.singleton_append,
        List.forall_mem_cons]
      exact ⟨⟨trivial, by simpa [Statement.values] using value.consistent⟩, ih⟩
  | @conditional scope last bodyEnd otherEnd test rebinds bound body otherwise rest tested _
      bodyTyped otherTyped _ bodyIh otherIh ih =>
      have frame : bodyEnd.toFrame.context = if rebinds then test.ty else scope.context := by
        simpa using bodyTyped.context
      have otherFrame : otherEnd.toFrame.context = scope.context := otherTyped.context
      rw [Scope.context_conditional_scope] at bodyIh
      rw [Scope.context_child] at otherIh
      simp only [Statement.framedAll, Statement.framed, frame, otherFrame, List.cons_append,
        List.forall_mem_cons, List.forall_mem_append]
      exact ⟨⟨⟨frame, otherFrame⟩, by simpa [Statement.values] using tested.consistent⟩,
        ⟨bodyIh, otherIh⟩, ih⟩
  | @loop scope last bodyEnd otherEnd subject element index value body otherwise rest ranged array
      _ _ bodyTyped otherTyped _ bodyIh otherIh ih =>
      have frame : bodyEnd.toFrame.context = element := by simpa using bodyTyped.context
      have otherFrame : otherEnd.toFrame.context = scope.context := otherTyped.context
      rw [Scope.context_loop_scope] at bodyIh
      rw [Scope.context_child] at otherIh
      simp only [Statement.framedAll, Statement.framed, frame, otherFrame, List.cons_append,
        List.forall_mem_cons, List.forall_mem_append]
      exact ⟨⟨⟨by rw [array, frame], otherFrame⟩, by simpa [Statement.values] using
        ranged.consistent⟩, ⟨bodyIh, otherIh⟩, ih⟩
  | «include» context _ ih =>
      simp only [Statement.framedAll, Statement.framed, List.singleton_append,
        List.forall_mem_cons]
      exact ⟨⟨trivial, fun value member => (context value (by simpa [Statement.values] using
        member)).consistent⟩, ih⟩

end Types

section Declarations

def Level.Records (declared : Declared) (level : Level) : Prop :=
  ∀ name, level.find? name = NameMap.get? name declared

def Scope.Records (declared : List Declared) (scope : Scope) : Prop :=
  List.Forall₂ Level.Records declared scope.levels

theorem Level.records_declared (level : Level) : level.Records level.declared := by
  intro name
  have entries (bindings : NameMap Ty) :
      NameMap.get? name (bindings.map fun (key, ty) => (key, level.generatedName key, ty)) =
        (NameMap.get? name bindings).map fun ty => (level.generatedName name, ty) := by
    induction bindings with
    | nil => rfl
    | cons entry rest ih =>
        simp only [List.map_cons, NameMap.get?]
        split
        · next same => rw [same]; rfl
        · exact ih
  exact (entries level.bindings).symm

theorem Level.Records.bind {declared : Declared} {level : Level} (records : level.Records declared)
    (name : String) (ty : Ty) :
    (level.bind name ty).Records ((name, level.generatedName name, ty) :: declared) := by
  intro key
  have before := records key
  by_cases same : name = key
  · subst same
    simp [Level.find?, Level.bind, Level.generatedName, NameMap.get?]
  · have other : key ≠ name := Ne.symm same
    simpa [Level.find?, Level.bind, Level.generatedName, NameMap.get?, same, other] using before

theorem Scope.records_declared (scope : Scope) :
    scope.Records (scope.levels.map Level.declared) :=
  List.forall₂_map_left_iff.mpr (List.forall₂_same.mpr fun level _ => level.records_declared)

theorem Scope.Records.latest {declared : List Declared} {scope : Scope}
    (records : scope.Records declared) (name : String) :
    Scope.lookup name scope.levels = Declared.latest? name declared := by
  unfold Scope.Records at records
  generalize scope.levels = levels at records
  unfold Scope.lookup Declared.latest?
  induction records with
  | nil => rfl
  | cons first _ ih => rw [List.findSome?_cons, List.findSome?_cons, first name, ih]

theorem Scope.Records.declare_local {level : Declared} {outer : List Declared} {scope : Scope}
    (records : scope.Records (level :: outer)) (name : String) (ty : Ty) :
    (scope.declareLocal name ty).2.Records
      (((name, (scope.declareLocal name ty).1, ty) :: level) :: outer) := by
  obtain ⟨first, rest⟩ := List.forall₂_cons.mp records
  refine .cons ?_ rest
  intro key
  by_cases same : name = key
  · subst same
    have entry : NameMap.get? name (scope.declareLocal name ty).2.level.bindings = some ty := by
      simp
    simp only [Level.find_of_get entry, NameMap.get?, if_true]
    rfl
  · have renamed := Scope.renamed_declare_local key name ty scope
    rw [if_neg fun both => same both.1.symm] at renamed
    have before := first key
    have other : key ≠ name := Ne.symm same
    simpa [Level.find?, Level.generatedName, renamed, NameMap.get?, same, other] using before

theorem Scope.Records.child {declared : List Declared} {scope : Scope}
    (records : scope.Records declared) : scope.child.Records ([] :: declared) :=
  .cons (fun _ => rfl) records

theorem Scope.Records.set_context {declared : List Declared} {scope : Scope}
    (records : scope.Records declared) (context : Ty) :
    (scope.setContext context).Records declared := by
  unfold Scope.Records at records ⊢
  cases records with
  | cons first rest => exact .cons first rest

/-- A parameter has its own name where nothing is renamed. -/
theorem Scope.Records.declare_if {level : Declared} {outer : List Declared} {scope : Scope}
    (records : scope.Records (level :: outer)) (plain : scope.level.renamed = [])
    (name : Option String) (ty : Ty) :
    (declareIf name ty scope).Records ((Declared.parameter name ty ++ level) :: outer) := by
  cases name with
  | none => exact records
  | some own =>
      obtain ⟨first, rest⟩ := List.forall₂_cons.mp records
      have same : scope.level.generatedName own = own := by
        simp [Level.generatedName, plain, NameMap.get?]
      have bound := first.bind own ty
      rw [same] at bound
      exact .cons bound rest

theorem Scope.Records.conditional {declared : List Declared} {scope : Scope}
    (records : scope.Records declared) (rebinds : Bool) (bound : Option String) (ty : Ty) :
    (conditionalScope scope rebinds bound ty).Records
      (Declared.parameter bound ty :: declared) := by
  have opened := records.child.declare_if rfl bound ty
  rw [List.append_nil] at opened
  cases rebinds with
  | false => exact opened
  | true => exact opened.set_context ty

theorem Scope.Records.loop {declared : List Declared} {scope : Scope}
    (records : scope.Records declared) (index value : Option String) (element : Ty) :
    (loopScope scope index value element).Records
      ((Declared.parameter value element ++ Declared.parameter index .number) :: declared) := by
  have entered := (Scope.Arm.child scope).set_context element
  have opened := (records.child.set_context element).declare_if rfl index .number
  rw [List.append_nil] at opened
  exact opened.declare_if (entered.declare_if index .number).renamed value element

theorem check_branch_followed {known : KnownTemplates} {scope next : Scope} {kind : BranchKind}
    {pos : Offset} {pipe : Pipe} {body : Block} {otherwise : Option Block}
    {declared : List Declared} {nodes : List Node} {statements more : List Statement}
    (records : scope.Records declared)
    (bodyFollowed : ∀ {scope last : Scope} {level : Declared} {found : List Statement},
      scope.Records (level :: declared) → checkNodes known scope body.nodes = .ok (found, last) →
      Declared.Followed (level :: declared) body.nodes found)
    (otherFollowed : ∀ {scope last : Scope} {level : Declared} {found : List Statement},
      scope.Records (level :: declared) →
      checkNodes known scope (elseNodes otherwise) = .ok (found, last) →
      Declared.Followed (level :: declared) (elseNodes otherwise) found)
    (restFollowed : ∀ {found : List Statement} {last : Scope},
      checkNodes known scope nodes = .ok (found, last) → Declared.Followed declared nodes found)
    {last : Scope}
    (checked : checkNode known scope (.branch kind pos pipe body otherwise) =
      .ok (statements, next))
    (moreChecked : checkNodes known next nodes = .ok (more, last)) :
    Declared.Followed declared (.branch kind pos pipe body otherwise :: nodes)
      (statements ++ more) := by
  obtain ⟨head, child, inner, innerEnd, other, otherEnd, opened, innerChecked, otherChecked, rfl,
    rfl⟩ := check_branch_ok_iff.mp checked
  have otherDone := otherFollowed records.child otherChecked
  have restDone := restFollowed moreChecked
  obtain ⟨_, ⟨_, conditional⟩ | ⟨_, loop⟩⟩ := open_branch_ok opened
  · obtain ⟨test, bound, _, targets, rfl, rfl⟩ := open_conditional_ok conditional
    exact .conditional targets (bodyFollowed (records.conditional _ bound test.ty) innerChecked)
      otherDone restDone
  · obtain ⟨subject, index, value, element, _, array, targets, _, rfl, rfl⟩ := open_loop_ok loop
    exact .loop targets array (bodyFollowed (records.loop index value element) innerChecked)
      otherDone restDone

theorem check_action_followed {scope next : Scope} {pos : Offset} {pipe : Pipe}
    {level : Declared} {outer : List Declared} {nodes : List Node} {statement : Statement}
    {more : List Statement} (records : scope.Records (level :: outer))
    (restFollowed : ∀ {level : Declared}, next.Records (level :: outer) →
      Declared.Followed (level :: outer) nodes more)
    (checked : checkAction scope pos pipe = .ok (statement, next)) :
    Declared.Followed (level :: outer) (.action pos pipe :: nodes) (statement :: more) := by
  obtain ⟨value, _, ⟨targets, rfl, rfl⟩ | ⟨name, targets, rest⟩⟩ := check_action_ok checked
  · exact .emit targets (restFollowed records)
  · rcases rest with ⟨assigns, rfl, generated, entry, rfl⟩ | ⟨declares, rfl, rfl⟩
    · rw [records.latest] at entry
      exact .assign assigns targets entry (restFollowed records)
    · exact .declare declares targets (restFollowed (records.declare_local name value.ty))

theorem check_nodes_followed {known : KnownTemplates} : (nodes : List Node) →
    {scope last : Scope} → {level : Declared} → {outer : List Declared} →
    {statements : List Statement} → scope.Records (level :: outer) →
    checkNodes known scope nodes = .ok (statements, last) →
    Declared.Followed (level :: outer) nodes statements
  | [], scope, last, level, outer, statements, records, checked => by
      simp only [checkNodes, Except.ok.injEq, Prod.mk.injEq] at checked
      rw [← checked.1]
      exact .nil
  | .text pos content :: rest, scope, last, level, outer, statements, records, checked => by
      obtain ⟨first, next, more, firstChecked, moreChecked, rfl⟩ :=
        check_nodes_cons_ok_iff.mp checked
      simp only [checkNode, Except.ok.injEq, Prod.mk.injEq] at firstChecked
      obtain ⟨rfl, rfl⟩ := firstChecked
      exact .text (check_nodes_followed rest records moreChecked)
  | .comment pos content :: rest, scope, last, level, outer, statements, records, checked => by
      obtain ⟨first, next, more, firstChecked, moreChecked, rfl⟩ :=
        check_nodes_cons_ok_iff.mp checked
      simp only [checkNode, Except.ok.injEq, Prod.mk.injEq] at firstChecked
      obtain ⟨rfl, rfl⟩ := firstChecked
      exact .comment (check_nodes_followed rest records moreChecked)
  | .action pos pipe :: rest, scope, last, level, outer, statements, records, checked => by
      obtain ⟨first, next, more, firstChecked, moreChecked, rfl⟩ :=
        check_nodes_cons_ok_iff.mp checked
      obtain ⟨statement, action, rfl⟩ := check_action_node_ok_iff.mp firstChecked
      exact check_action_followed records
        (fun records => check_nodes_followed rest records moreChecked) action
  | .template pos name pipe :: rest, scope, last, level, outer, statements, records, checked => by
      obtain ⟨first, next, more, firstChecked, moreChecked, rfl⟩ :=
        check_nodes_cons_ok_iff.mp checked
      obtain ⟨statement, template, rfl, rfl⟩ := check_template_node_ok_iff.mp firstChecked
      have followed := check_nodes_followed rest records moreChecked
      obtain ⟨_, ⟨_, rfl⟩ | ⟨_, _, _, _, rfl⟩⟩ := check_template_ok_iff.mp template <;>
        exact .include followed
  | .branch kind pos pipe ⟨blockPos, body⟩ none :: rest, scope, last, level, outer, statements,
      records, checked => by
      obtain ⟨first, next, more, firstChecked, moreChecked, rfl⟩ :=
        check_nodes_cons_ok_iff.mp checked
      exact check_branch_followed records
        (fun records innerChecked => check_nodes_followed body records innerChecked)
        (fun records otherChecked => check_nodes_followed [] records otherChecked)
        (fun restChecked => check_nodes_followed rest records restChecked) firstChecked moreChecked
  | .branch kind pos pipe ⟨blockPos, body⟩ (some ⟨otherPos, otherwise⟩) :: rest, scope, last,
      level, outer, statements, records, checked => by
      obtain ⟨first, next, more, firstChecked, moreChecked, rfl⟩ :=
        check_nodes_cons_ok_iff.mp checked
      exact check_branch_followed records
        (fun records innerChecked => check_nodes_followed body records innerChecked)
        (fun records otherChecked => check_nodes_followed otherwise records otherChecked)
        (fun restChecked => check_nodes_followed rest records restChecked) firstChecked moreChecked

end Declarations

/-- A checked template starts with the dot of its root. Each of its statements goes with the frame
that it stands in, with all parts of its expressions, and every assignment has the type and the name
of the latest declaration of its variable in sight. -/
theorem checked_consistent {known : KnownTemplates} {root : Scope} {tree : Tree}
    {checked : CheckedTemplate} (accepted : tree.check known root = .ok checked) :
    checked.frame.context = root.context ∧
      (∀ place ∈ checked.framed, place.Consistent) ∧
      Declared.Followed ([] :: root.levels.map Level.declared) tree.root.nodes checked.body := by
  obtain ⟨last, typed, frame⟩ := check_tree_typed tree.named_any accepted
  have dot : checked.frame.context = root.context := by
    rw [frame, Scope.context_to_frame, typed.context, Scope.context_child]
  obtain ⟨_, nodes, _, _⟩ := check_tree_ok_iff.mp accepted
  refine ⟨dot, ?_, check_nodes_followed _ root.records_declared.child nodes⟩
  unfold CheckedTemplate.framed
  rw [dot]
  exact typed.consistent

def itemType : Ty :=
  .object [("Name", .string), ("Price", .function [] (some .number))] [("Name", "name")]

def tallyType : Ty := .object [("Items", .array itemType)] [("Items", "items")]

/-- A counter that a block inside of the loop assigns, and that the loop then hides by a text. -/
def tallyTree : Tree :=
  ⟨"tally", "", ⟨0,
    [.action 0 ⟨0, false, [⟨0, ["$n"]⟩], [⟨0, [.identifier 0 "len", .field 0 ["Items"]]⟩]⟩,
      .branch .range 0 ⟨0, false, [⟨0, ["$x"]⟩], [⟨0, [.field 0 ["Items"]]⟩]⟩
        ⟨0, [.branch .with 0 ⟨0, false, [], [⟨0, [.var ⟨0, ["$x", "Price"]⟩]⟩]⟩
            ⟨0, [.action 0 ⟨0, true, [⟨0, ["$n"]⟩], [⟨0, [.dot 0]⟩]⟩]⟩ none,
          .action 0 ⟨0, false, [⟨0, ["$n"]⟩], [⟨0, [.field 0 ["Name"]]⟩]⟩,
          .action 0 ⟨0, true, [⟨0, ["$n"]⟩], [⟨0, [.string 0 "none"]⟩]⟩]⟩ none]⟩⟩

theorem tally_consistent :
    ∃ checked, tallyTree.check none (Scope.base tallyType []) = .ok checked ∧
      checked.frame.context = tallyType ∧
      checked.framed.map FramedStatement.dot =
        [tallyType, tallyType, itemType, .number, itemType, itemType] ∧
      (∀ place ∈ checked.framed, place.Consistent) ∧
      Declared.Followed ([] :: (Scope.base tallyType []).levels.map Level.declared)
        tallyTree.root.nodes checked.body := by
  have accepted : tallyTree.check none (Scope.base tallyType []) = .ok _ := rfl
  obtain ⟨dot, consistent, followed⟩ := checked_consistent accepted
  exact ⟨_, accepted, dot, rfl, consistent, followed⟩

end TemplateScript
