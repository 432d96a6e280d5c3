import TemplateScript.Proofs.Rendering.Blocks

/-!
Script and tree agree on every checked template.

Each kind of node has its lemma: the statement that the checker makes of it runs, and does what the
tree does at the node. Sequences and loops follow by induction, and a template is a sequence in the
closure of its function.
-/
namespace TemplateScript

variable {F : Type} {world : World F}

theorem Conforms.emission {ty : Ty} {datum : Datum F} (conforms : Conforms world ty datum) :
    datum.emission ty = .ok datum.value.print := by
  unfold Datum.emission
  split
  · next primitive => rw [conforms.convert primitive]; rfl
  · rfl

theorem values_empty (items : List (Datum F)) : (Datum.values items).isEmpty = items.isEmpty := by
  cases items <;> rfl

theorem Conforms.passes {ty : Ty} {datum : Datum F} (conforms : Conforms world ty datum) :
    datum.passes ty = .ok datum.value.truth := by
  unfold Datum.passes
  split
  · next array =>
      cases ty with
      | array element =>
          obtain ⟨items, rfl, _⟩ := conforms.items
          simp [Datum.items, Except.map, Datum.value, Value.truth, values_empty]
      | _ => cases array
  · next plain => rw [conforms.truth (by simpa using plain)]

theorem exec_all_single (statement : Statement) (context : Datum F) (state : State F) :
    Statement.execAll world [statement] context state = statement.exec world context state := by
  simp only [Statement.execAll]
  cases statement.exec world context state <;> rfl

theorem exec_all_append (first second : List Statement) (context : Datum F) (state : State F) :
    Statement.execAll world (first ++ second) context state =
      (Statement.execAll world first context state >>= fun after =>
        Statement.execAll world second context after) := by
  induction first generalizing state with
  | nil => rfl
  | cons statement rest ih =>
      simp only [List.cons_append, Statement.execAll]
      cases statement.exec world context state with
      | error cause => rfl
      | ok after => exact ih after

section

variable {table : Ty} {scope : Scope} {dot : Datum F} {state : State F} {page : Page F}

theorem Agree.then {next last : Scope} {firstParsed moreParsed : Prop}
    {ran : Except Stuck (State F)} {shown : Option (Page F)}
    {run : State F → Except Stuck (State F)} {show? : Page F → Option (Page F)}
    (first : Agree world table next dot state firstParsed ran shown)
    (more : ∀ middle page, Alike world table next dot middle page →
      Stack.declared middle.closures = Stack.declared state.closures →
      Agree world table last dot middle moreParsed (run middle) (show? page)) :
    Agree world table last dot state (firstParsed ∧ moreParsed) (ran >>= run)
      (shown >>= show?) := by
  obtain ⟨middle, page, ranFirst, alike, declared, shownFirst⟩ := first
  obtain ⟨after, final, ranMore, alikeAfter, declaredMore, shownMore⟩ :=
    more middle page alike declared
  refine ⟨after, final, ?_, alikeAfter, declaredMore.trans declared, ?_⟩
  · rw [ranFirst]
    exact ranMore
  · intro given
    rcases given with ⟨parsedFirst, parsedMore⟩
    rw [shownFirst parsedFirst]
    exact shownMore parsedMore

theorem emit_agrees {pipe : Pipe} {value : Expr} (alike : Alike world table scope dot state page)
    (named : pipe.named isVariable = true) (checked : checkPipe scope pipe = .ok value)
    (targets : pipe.targets = []) :
    Agree world table scope dot state (pipe.fielded = true)
      ((Statement.emit value).exec world dot state)
      (pipe.act? world table ⟨scope.context, dot⟩ page) := by
  obtain ⟨datum, trace, evaluated, conforms, conform, meant⟩ :=
    pipe_evaluates alike.situated named checked
  refine ⟨_, _, ?_, (alike.traced conform).append datum.value.print, rfl, ?_⟩
  · simp [Statement.exec, evaluated, conforms.emission]
  · intro fielded
    simp [Pipe.act?, meant fielded, targets]

theorem declare_agrees {pipe : Pipe} {value : Expr} {name : String}
    (alike : Alike world table scope dot state page)
    (placed : Placed (scope.declareLocal name value.ty).2.levels (Stack.declared state.closures))
    (named : pipe.named isVariable = true) (checked : checkPipe scope pipe = .ok value)
    (isVar : isVariable name = true) (targets : pipe.targets.map Variable.ident = [[name]])
    (declares : pipe.assigns = false) :
    Agree world table (scope.declareLocal name value.ty).2 dot state (pipe.fielded = true)
      ((Statement.declare (scope.declareLocal name value.ty).1 value).exec world dot state)
      (pipe.act? world table ⟨scope.context, dot⟩ page) := by
  obtain ⟨datum, trace, evaluated, conforms, conform, meant⟩ :=
    pipe_evaluates alike.situated named checked
  have grows := Scope.Grows.declare_local isVar value.ty scope
  obtain ⟨block, outer, closed, blocks, wrote, mirrors⟩ :=
    alike.mirrors.declare (grows.regular alike.regular) placed isVar conforms
  refine ⟨{ state with closures := closed, seen := state.seen ++ trace },
    { page with blocks := NameMap.insert name ⟨value.ty, datum⟩ block :: outer }, ?_, ?_,
    Stack.declared_write wrote, ?_⟩
  · simp [Statement.exec, evaluated, State.write, Closure.write, wrote, Except.map]
  · exact alike.onward grows mirrors (alike.seen.append conform) alike.out
  · intro fielded
    simp [Pipe.act?, meant fielded, targets, declares, Page.declare?, blocks]

theorem assign_agrees {pipe : Pipe} {value : Expr} {name generated : String}
    (alike : Alike world table scope dot state page)
    (placed : Placed scope.levels (Stack.declared state.closures))
    (named : pipe.named isVariable = true) (checked : checkPipe scope pipe = .ok value)
    (isVar : isVariable name = true) (targets : pipe.targets.map Variable.ident = [[name]])
    (assigns : pipe.assigns = true)
    (entry : Scope.lookup name scope.levels = some (generated, value.ty)) :
    Agree world table scope dot state (pipe.fielded = true)
      ((Statement.assign generated value).exec world dot state)
      (pipe.act? world table ⟨scope.context, dot⟩ page) := by
  obtain ⟨datum, trace, evaluated, conforms, conform, meant⟩ :=
    pipe_evaluates alike.situated named checked
  obtain ⟨blocks, closed, assigned, wrote, mirrors⟩ :=
    alike.mirrors.assign alike.regular placed isVar entry conforms
  refine ⟨{ state with closures := closed, seen := state.seen ++ trace },
    { page with blocks := blocks }, ?_, ?_, Stack.declared_write wrote, ?_⟩
  · simp [Statement.exec, evaluated, State.write, Closure.write, wrote, Except.map]
  · exact alike.onward (.refl scope) mirrors (alike.seen.append conform) alike.out
  · intro fielded
    simp [Pipe.act?, meant fielded, targets, assigns, Page.assign?, assigned]

theorem action_agrees {next : Scope} {pos : Offset} {pipe : Pipe} {statement : Statement}
    (alike : Alike world table scope dot state page)
    (placed : Placed next.levels (Stack.declared state.closures))
    (named : pipe.named isVariable = true)
    (checked : checkAction scope pos pipe = .ok (statement, next)) :
    Agree world table next dot state (pipe.fielded = true) (statement.exec world dot state)
      (pipe.act? world table ⟨scope.context, dot⟩ page) := by
  obtain ⟨value, valued, ⟨targets, rfl, rfl⟩ | ⟨name, targets, rest⟩⟩ := check_action_ok checked
  · exact emit_agrees alike named valued targets
  · have single : pipe.targets.map Variable.ident = [name].map fun name => [name] := targets
    have isVar := single_targets_named named single name (by simp)
    rcases rest with ⟨assigns, rfl, generated, entry, rfl⟩ | ⟨declares, rfl, rfl⟩
    · exact assign_agrees alike placed named valued isVar targets assigns entry
    · exact declare_agrees alike placed named valued isVar targets declares

theorem include_agrees {known : KnownTemplates} {pos : Offset} {name : String}
    {pipe : Option Pipe} {statement : Statement} (alike : Alike world table scope dot state page)
    (named : ∀ context ∈ pipe, context.named isVariable = true)
    (checked : checkTemplate known scope pos name pipe = .ok statement) :
    Agree world table scope dot state ((Node.template pos name pipe).parsed = true)
      (statement.exec world dot state)
      ((Node.template pos name pipe).interpret? world table ⟨scope.context, dot⟩ page) := by
  obtain ⟨_, ⟨rfl, rfl⟩ | ⟨context, value, rfl, valued, rfl⟩⟩ := check_template_ok_iff.mp checked
  · exact ⟨_, _, rfl, alike.append (world.render name none), rfl, fun _ => rfl⟩
  · obtain ⟨datum, trace, evaluated, _, conform, meant⟩ :=
      pipe_evaluates alike.situated (named context rfl) valued
    refine ⟨_, _, ?_, (alike.traced conform).append (world.render name (some datum)), rfl, ?_⟩
    · simp [Statement.exec, evaluated]
    · intro parsed
      simp only [Node.parsed, Bool.and_eq_true] at parsed
      simp [Node.interpret?, meant parsed.1, parsed.2]

theorem inside_nothing (closure : Closure F) (body : List Statement) (context : Datum F)
    (state : State F) :
    (if body.isEmpty then .ok state
      else state.inside closure (Statement.execAll world body context)) =
      state.inside closure (Statement.execAll world body context) := by
  cases body <;> rfl

theorem opens_child (scope : Scope) : Opens (F := F) scope scope.child [] where
  outer := rfl
  bindings := rfl
  plain := rfl
  functions := .child scope
  written := by simp

theorem opens_conditional {bound : Option String} (named : ∀ var ∈ bound, isVariable var = true)
    (scope : Scope) (rebinds : Bool) (tested : Reflected F) :
    Opens scope (conditionalScope scope rebinds bound tested.ty)
      (bound.toList.map fun name => (name, tested)) where
  outer := by cases rebinds <;> cases bound <;> rfl
  bindings := by cases rebinds <;> cases bound <;> rfl
  plain := by cases rebinds <;> cases bound <;> rfl
  functions := .conditional (fun var member => variable_starts_with_dollar (named var member))
    rebinds tested.ty scope
  written := by
    intro param member
    obtain ⟨name, present, rfl⟩ := List.mem_map.mp member
    exact named name (Option.mem_toList.mp present)

def loopVariables (index value : Option String) (position : Nat) (item : Reflected F) :
    List (String × Reflected F) :=
  (index.toList.map fun name => (name, ⟨.number, .number (.ofNat position)⟩)) ++
    value.toList.map fun name => (name, item)

theorem opens_loop {index value : Option String} (indexNamed : ∀ var ∈ index, isVariable var = true)
    (valueNamed : ∀ var ∈ value, isVariable var = true) (scope : Scope) (position : Nat)
    (item : Reflected F) :
    Opens scope (loopScope scope index value item.ty)
      (loopVariables index value position item) where
  outer := by cases index <;> cases value <;> rfl
  bindings := by cases index <;> cases value <;> rfl
  plain := by cases index <;> cases value <;> rfl
  functions := .loop (fun var member => variable_starts_with_dollar (indexNamed var member))
    (fun var member => variable_starts_with_dollar (valueNamed var member)) item.ty scope
  written := by
    intro param member
    rcases List.mem_append.mp member with isIndex | isValue
    · obtain ⟨name, present, rfl⟩ := List.mem_map.mp isIndex
      exact indexNamed name (Option.mem_toList.mp present)
    · obtain ⟨name, present, rfl⟩ := List.mem_map.mp isValue
      exact valueNamed name (Option.mem_toList.mp present)

theorem Agree.shows {last : Scope} {parsed stronger : Prop} {ran : Except Stuck (State F)}
    {shown other : Option (Page F)} (agree : Agree world table last dot state parsed ran shown)
    (implies : stronger → parsed) (same : stronger → other = shown) :
    Agree world table last dot state stronger ran other := by
  obtain ⟨after, page, ranAfter, alike, declared, showed⟩ := agree
  exact ⟨after, page, ranAfter, alike, declared, fun holds => by
    rw [same holds, showed (implies holds)]⟩

theorem Agree.weaken {last : Scope} {parsed stronger : Prop} {ran : Except Stuck (State F)}
    {shown : Option (Page F)} (agree : Agree world table last dot state parsed ran shown)
    (implies : stronger → parsed) : Agree world table last dot state stronger ran shown :=
  agree.shows implies fun _ => rfl

theorem exec_conditional {test : Expr} {datum : Datum F} {next : State F} (rebinds : Bool)
    (bound : Option String) (body otherwise : List Statement) (frame otherFrame : Frame)
    (evaluated : state.evaluate world dot test = .ok (datum, next))
    (conforms : Conforms world test.ty datum) :
    (Statement.conditional test rebinds bound body frame otherwise otherFrame).exec world dot
        state =
      if datum.value.truth then
        next.inside (.ofBlock (bound.toList.map fun name => (name, datum)) frame)
          (Statement.execAll world body (if rebinds then datum else dot))
      else next.inside (.ofBlock [] otherFrame) (Statement.execAll world otherwise dot) := by
  rw [← inside_nothing (.ofBlock [] otherFrame) otherwise dot next]
  simp [Statement.exec, evaluated, conforms.passes]

theorem choose_test {kind : BranchKind} {pipe : Pipe} {reflected value : Reflected F}
    {params : List (String × Reflected F)} (showBody? : Reflected F → Page F → Option (Page F))
    (showOther? : Page F → Option (Page F)) (tests : kind ≠ .range)
    (meant : pipe.evaluate? world (page.around table reflected) = some value)
    (started : testVariables? value (pipe.targets.map Variable.ident) = some params) :
    kind.choose? world table reflected pipe showBody? showOther? page =
      if value.datum.value.truth then
        page.inside? params (showBody? (if kind = .with then value else reflected))
      else page.inside? [] showOther? := by
  cases kind with
  | range => exact absurd rfl tests
  | _ => simp [BranchKind.choose?, meant, started]

theorem conditional_dot (kind : BranchKind) (scope : Scope) (dot : Datum F) (bound : Option String)
    (tested : Reflected F) :
    (if kind = .with then tested else ⟨scope.context, dot⟩) =
      (⟨(conditionalScope scope (decide (kind = .with)) bound tested.ty).context,
        if decide (kind = .with) = true then tested.datum else dot⟩ : Reflected F) := by
  cases kind <;> cases bound <;> rfl

theorem conditional_conforms (kind : BranchKind) {scope : Scope} {dot : Datum F}
    (bound : Option String) (tested : Reflected F) (own : Conforms world scope.context dot)
    (conforms : Conforms world tested.ty tested.datum) :
    Conforms world (conditionalScope scope (decide (kind = .with)) bound tested.ty).context
      (if decide (kind = .with) = true then tested.datum else dot) := by
  cases kind <;> cases bound <;> first | exact conforms | exact own

theorem conditional_agrees {kind : BranchKind} {pipe : Pipe} {test : Expr} {bound : Option String}
    {bodyEnd otherEnd : Scope} {body otherwise : List Statement} {bodyParsed otherParsed : Prop}
    {showBody? : Reflected F → Page F → Option (Page F)} {showOther? : Page F → Option (Page F)}
    (alike : Alike world table scope dot state page)
    (placed : Placed scope.levels (Stack.declared state.closures)) (tests : kind ≠ .range)
    (named : pipe.named isVariable = true) (checked : checkPipe scope.child pipe = .ok test)
    (targets : pipe.targets.map Variable.ident = bound.toList.map fun name => [name])
    (bodyGrows : (conditionalScope scope (decide (kind = .with)) bound test.ty).Grows bodyEnd)
    (otherGrows : scope.child.Grows otherEnd)
    (bodyAgrees : ∀ inner, ArmAgrees world table
      (conditionalScope scope (decide (kind = .with)) bound test.ty) bodyEnd inner bodyParsed body
      (showBody? ⟨(conditionalScope scope (decide (kind = .with)) bound test.ty).context, inner⟩))
    (otherAgrees :
      ArmAgrees world table scope.child otherEnd dot otherParsed otherwise showOther?) :
    Agree world table scope dot state (pipe.fielded = true ∧ bodyParsed ∧ otherParsed)
      ((Statement.conditional test (decide (kind = .with)) bound body bodyEnd.toFrame otherwise
        otherEnd.toFrame).exec world dot state)
      (kind.choose? world table ⟨scope.context, dot⟩ pipe showBody? showOther? page) := by
  obtain ⟨datum, trace, evaluated, conforms, conform, meant⟩ :=
    pipe_evaluates alike.situated.child named checked
  have alikeTested := alike.traced conform
  have boundNamed : ∀ var ∈ bound, isVariable var = true := fun var member =>
    single_targets_named named targets var (Option.mem_toList.mpr member)
  let params : List (String × Reflected F) := bound.toList.map fun name => (name, ⟨test.ty, datum⟩)
  have data : paramData params = bound.toList.map fun name => (name, datum) := by
    simp [params, paramData]
  have started : testVariables? ⟨test.ty, datum⟩ (pipe.targets.map Variable.ident) =
      some params := by
    rw [targets]
    cases bound <;> rfl
  rw [exec_conditional _ bound body otherwise bodyEnd.toFrame otherEnd.toFrame evaluated conforms]
  have shown := fun fielded => choose_test showBody? showOther? tests (meant fielded) started
  cases truth : datum.value.truth with
  | true =>
      have context := conditional_conforms kind bound ⟨test.ty, datum⟩ alike.context conforms
      have arm := block_agrees alikeTested placed
        (opens_conditional boundNamed scope (decide (kind = .with)) ⟨test.ty, datum⟩)
        (by simp [conforms]) context bodyGrows (bodyAgrees _)
      rw [if_pos rfl, ← data]
      refine arm.shows (fun given => given.2.1) fun given => ?_
      rw [shown given.1, if_pos truth, conditional_dot kind scope dot bound ⟨test.ty, datum⟩]
  | false =>
      have arm := block_agrees alikeTested placed (opens_child scope) (by simp) alike.context
        otherGrows otherAgrees
      refine arm.shows (fun given => given.2.2) fun given => ?_
      rw [shown given.1, truth]
      rfl

/-- The loop goes through the same elements on both sides, and its flag tells whether there were
any. -/
theorem each_agrees {run : Nat → Datum F → State F → Except Stuck (State F)}
    {show? : Nat → Datum F → Page F → Option (Page F)} {items : List (Datum F)} {parsed : Prop}
    (agrees : ∀ position, ∀ item ∈ items, ∀ state page, Alike world table scope dot state page →
      Placed scope.levels (Stack.declared state.closures) →
      Agree world table scope dot state parsed (run position item state) (show? position item page))
    (alike : Alike world table scope dot state page)
    (placed : Placed scope.levels (Stack.declared state.closures)) (position : Nat) (any : Bool) :
    ∃ after last, State.each run position items any state = .ok (any || !items.isEmpty, after) ∧
      Alike world table scope dot after last ∧
      Stack.declared after.closures = Stack.declared state.closures ∧
      (parsed → Page.each? show? position items page = some last) := by
  induction items generalizing position any state page with
  | nil => exact ⟨state, page, by simp [State.each], alike, rfl, fun _ => rfl⟩
  | cons item rest ih =>
      obtain ⟨middle, shown, ran, alikeMiddle, declared, showed⟩ :=
        agrees position item (by simp) state page alike placed
      obtain ⟨after, last, ranRest, alikeAfter, declaredRest, showedRest⟩ :=
        ih (fun place other member => agrees place other (by simp [member])) alikeMiddle
          (by rw [declared]; exact placed) (position + 1) true
      refine ⟨after, last, ?_, alikeAfter, declaredRest.trans declared, ?_⟩
      · simpa [State.each, ran] using ranRest
      · intro isParsed
        simp [Page.each?, showed isParsed, showedRest isParsed]

theorem exec_loop {subject : Expr} {items : List (Datum F)} {next : State F}
    (index value : Option String) (body otherwise : List Statement) (frame otherFrame : Frame)
    (evaluated : state.evaluate world dot subject = .ok (.array items, next)) :
    (Statement.loop subject index value body frame otherwise otherFrame).exec world dot state =
      (State.each (fun position item state =>
          state.inside (.ofBlock (loopParams index value position item) frame)
            (Statement.execAll world body item)) 0 items false next >>= fun (any, after) =>
        if any then .ok after
        else after.inside (.ofBlock [] otherFrame) (Statement.execAll world otherwise dot)) := by
  have arm : ∀ (any : Bool) (after : State F),
      (if (any || otherwise.isEmpty) = true then .ok after
        else after.inside (.ofBlock [] otherFrame) (Statement.execAll world otherwise dot)) =
      if any then .ok after
      else after.inside (.ofBlock [] otherFrame) (Statement.execAll world otherwise dot) := by
    intro any after
    cases any with
    | true => rfl
    | false => exact inside_nothing _ otherwise dot after
  simp only [Statement.exec, evaluated, pure, Except.pure, arm]
  rfl

theorem choose_range {pipe : Pipe} {reflected : Reflected F} {element : Ty}
    {items : List (Datum F)} (showBody? : Reflected F → Page F → Option (Page F))
    (showOther? : Page F → Option (Page F))
    (meant : pipe.evaluate? world (page.around table reflected) =
      some ⟨.array element, .array items⟩) :
    BranchKind.choose? world table reflected .range pipe showBody? showOther? page =
      if items.isEmpty then page.inside? [] showOther?
      else
        page.each? (fun position item page => do
          let started ← rangeVariables? element position item (pipe.targets.map Variable.ident)
          page.inside? started (showBody? ⟨element, item⟩)) 0 items := by
  cases items with
  | nil => simp [BranchKind.choose?, meant]
  | cons item rest => simp [BranchKind.choose?, meant]

theorem range_variables_chosen {index value : Option String} {targets : List (List String)}
    (element : Ty) (position : Nat) (item : Datum F)
    (chosen : targets = (index.toList ++ value.toList).map fun name => [name])
    (ordered : value = none → index = none) :
    rangeVariables? element position item targets =
      some (loopVariables index value position ⟨element, item⟩) := by
  subst chosen
  cases value with
  | none => rw [ordered rfl]; rfl
  | some value => cases index <;> rfl

theorem loop_params_data (index value : Option String) (position : Nat) (item : Reflected F) :
    loopParams index value position item.datum =
      paramData (loopVariables index value position item) := by
  simp [loopParams, loopVariables, paramData, Function.comp_def]

theorem loop_variables_conform {index value : Option String} {position : Nat} {item : Reflected F}
    (conforms : Conforms world item.ty item.datum) :
    ∀ param ∈ loopVariables index value position item, Conforms world param.2.ty param.2.datum := by
  intro param member
  rcases List.mem_append.mp member with isIndex | isValue
  · obtain ⟨name, _, rfl⟩ := List.mem_map.mp isIndex
    exact ⟨_, rfl⟩
  · obtain ⟨name, _, rfl⟩ := List.mem_map.mp isValue
    exact conforms

theorem round_agrees {index value : Option String} {element : Ty} {bodyEnd : Scope}
    {body : List Statement} {bodyParsed : Prop} {targets : List (List String)}
    {showBody? : Reflected F → Page F → Option (Page F)} {item : Datum F}
    (alike : Alike world table scope dot state page)
    (placed : Placed scope.levels (Stack.declared state.closures))
    (chosen : targets = (index.toList ++ value.toList).map fun name => [name])
    (ordered : value = none → index = none) (indexNamed : ∀ var ∈ index, isVariable var = true)
    (valueNamed : ∀ var ∈ value, isVariable var = true)
    (bodyGrows : (loopScope scope index value element).Grows bodyEnd)
    (bodyAgrees : ArmAgrees world table (loopScope scope index value element) bodyEnd item
      bodyParsed body (showBody? ⟨(loopScope scope index value element).context, item⟩))
    (conforms : Conforms world element item) (position : Nat) :
    Agree world table scope dot state bodyParsed
      (state.inside (.ofBlock (loopParams index value position item) bodyEnd.toFrame)
        (Statement.execAll world body item))
      (do
        let started ← rangeVariables? element position item targets
        page.inside? started (showBody? ⟨element, item⟩)) := by
  have context : (loopScope scope index value element).context = element := by
    cases index <;> cases value <;> rfl
  have opens := opens_loop indexNamed valueNamed scope position ⟨element, item⟩
  have arm := block_agrees alike placed opens (loop_variables_conform conforms)
    (by rw [context]; exact conforms) bodyGrows bodyAgrees
  rw [context, ← loop_params_data] at arm
  rw [range_variables_chosen element position item chosen ordered]
  exact arm

theorem loop_agrees {pipe : Pipe} {subject : Expr} {index value : Option String} {element : Ty}
    {bodyEnd otherEnd : Scope} {body otherwise : List Statement} {bodyParsed otherParsed : Prop}
    {showBody? : Reflected F → Page F → Option (Page F)} {showOther? : Page F → Option (Page F)}
    (alike : Alike world table scope dot state page)
    (placed : Placed scope.levels (Stack.declared state.closures))
    (named : pipe.named isVariable = true) (checked : checkPipe scope.child pipe = .ok subject)
    (array : subject.ty = .array element)
    (targets : pipe.targets.map Variable.ident =
      (index.toList ++ value.toList).map fun name => [name])
    (ordered : value = none → index = none)
    (bodyGrows : (loopScope scope index value element).Grows bodyEnd)
    (otherGrows : scope.child.Grows otherEnd)
    (bodyAgrees : ∀ inner, ArmAgrees world table (loopScope scope index value element) bodyEnd inner
      bodyParsed body (showBody? ⟨(loopScope scope index value element).context, inner⟩))
    (otherAgrees :
      ArmAgrees world table scope.child otherEnd dot otherParsed otherwise showOther?) :
    Agree world table scope dot state (pipe.fielded = true ∧ bodyParsed ∧ otherParsed)
      ((Statement.loop subject index value body bodyEnd.toFrame otherwise otherEnd.toFrame).exec
        world dot state)
      (BranchKind.choose? world table ⟨scope.context, dot⟩ .range pipe showBody? showOther?
        page) := by
  obtain ⟨datum, trace, evaluated, conforms, conform, meant⟩ :=
    pipe_evaluates alike.situated.child named checked
  rw [array] at conforms meant
  obtain ⟨items, rfl, itemsConform⟩ := conforms.items
  have alikeRanged := alike.traced conform
  have targetsNamed := single_targets_named named targets
  rw [exec_loop index value body otherwise bodyEnd.toFrame otherEnd.toFrame evaluated]
  have shown := fun fielded => choose_range showBody? showOther? (meant fielded)
  cases items with
  | nil =>
      -- no round has run, so the other arm starts where the loop did
      have arm := block_agrees alikeRanged placed (opens_child scope) (by simp) alike.context
        otherGrows otherAgrees
      refine arm.shows (fun given => given.2.2) fun given => ?_
      rw [shown given.1]
      rfl
  | cons first rest =>
      obtain ⟨after, last, ran, alikeAfter, declared, showed⟩ := each_agrees
        (fun position item member state page alikeHere placedHere =>
          round_agrees alikeHere placedHere targets ordered
            (fun var isIndex => targetsNamed var (by simp_all))
            (fun var isValue => targetsNamed var (by simp_all)) bodyGrows (bodyAgrees item)
            (itemsConform item member) position) alikeRanged placed 0 false
      refine ⟨after, last, by rw [ran]; rfl, alikeAfter, declared, ?_⟩
      intro given
      rcases given with ⟨fielded, bodyIs, _⟩
      rw [shown fielded]
      exact showed bodyIs

/-- Script and tree agree on a block, whatever opens it, if they agree on both of its arms. -/
theorem branch_agrees {child bodyEnd otherEnd : Scope} {kind : BranchKind} {pos : Offset}
    {pipe : Pipe} {render : Unit → String} {head : BranchHead} {body otherwise : List Statement}
    {bodyParsed otherParsed : Prop} {showBody? : Reflected F → Page F → Option (Page F)}
    {showOther? : Page F → Option (Page F)} (alike : Alike world table scope dot state page)
    (placed : Placed scope.levels (Stack.declared state.closures))
    (named : pipe.named isVariable = true)
    (opened : openBranch scope kind pos pipe render = .ok (head, child))
    (bodyGrows : child.Grows bodyEnd) (otherGrows : scope.child.Grows otherEnd)
    (bodyAgrees : ∀ inner, ArmAgrees world table child bodyEnd inner bodyParsed body
      (showBody? ⟨child.context, inner⟩))
    (otherAgrees :
      ArmAgrees world table scope.child otherEnd dot otherParsed otherwise showOther?) :
    Agree world table scope dot state (pipe.fielded = true ∧ bodyParsed ∧ otherParsed)
      ((head.close body bodyEnd.toFrame otherwise otherEnd.toFrame).exec world dot state)
      (kind.choose? world table ⟨scope.context, dot⟩ pipe showBody? showOther? page) := by
  obtain ⟨_, ⟨tests, conditional⟩ | ⟨rfl, loop⟩⟩ := open_branch_ok opened
  · obtain ⟨test, bound, tested, targets, rfl, rfl⟩ := open_conditional_ok conditional
    exact conditional_agrees alike placed tests named tested targets bodyGrows otherGrows bodyAgrees
      otherAgrees
  · obtain ⟨subject, index, value, element, checked, array, targets, ordered, rfl, rfl⟩ :=
      open_loop_ok loop
    exact loop_agrees alike placed named checked array targets ordered bodyGrows otherGrows
      bodyAgrees otherAgrees

end

mutual

theorem node_agrees {table : Ty} {known : KnownTemplates} : (node : Node) → {scope next : Scope} →
    {statements : List Statement} → node.named isVariable = true →
    checkNode known scope node = .ok (statements, next) → (dot : Datum F) →
    ArmAgrees world table scope next dot (node.parsed = true) statements
      (node.interpret? world table ⟨scope.context, dot⟩)
  | .text pos content, scope, next, statements, _, checked, dot, state, page, alike, _ => by
      simp only [checkNode, Except.ok.injEq, Prod.mk.injEq] at checked
      obtain ⟨rfl, rfl⟩ := checked
      exact ⟨_, _, rfl, alike.append (units content), rfl, fun _ => rfl⟩
  | .comment pos content, scope, next, statements, _, checked, dot, state, page, alike, _ => by
      simp only [checkNode, Except.ok.injEq, Prod.mk.injEq] at checked
      obtain ⟨rfl, rfl⟩ := checked
      exact ⟨state, page, rfl, alike, rfl, fun _ => rfl⟩
  | .action pos pipe, scope, next, statements, named, checked, dot, state, page, alike, placed => by
      obtain ⟨statement, action, rfl⟩ := check_action_node_ok_iff.mp checked
      rw [exec_all_single]
      exact action_agrees alike placed named action
  | .template pos name none, scope, next, statements, _, checked, dot, state, page, alike, _ => by
      obtain ⟨statement, template, rfl, rfl⟩ := check_template_node_ok_iff.mp checked
      rw [exec_all_single]
      exact include_agrees alike (by simp) template
  | .template pos name (some pipe), scope, next, statements, named, checked, dot, state, page,
      alike, _ => by
      obtain ⟨statement, template, rfl, rfl⟩ := check_template_node_ok_iff.mp checked
      simp only [Node.named] at named
      rw [exec_all_single]
      exact include_agrees alike (by simpa using named) template
  | .branch kind pos pipe ⟨_, body⟩ none, scope, next, statements, named, checked, dot, state, page,
      alike, placed => by
      simp only [Node.named, Block.named, Bool.and_eq_true] at named
      obtain ⟨head, child, inner, innerEnd, other, otherEnd, opened, innerChecked, otherChecked,
        rfl, rfl⟩ := check_branch_ok_iff.mp checked
      have agree := branch_agrees alike placed named.1 opened
        (check_nodes_typed body named.2 innerChecked).grows
        (check_nodes_typed [] rfl otherChecked).grows (nodes_agree body named.2 innerChecked)
        (nodes_agree [] rfl otherChecked dot)
      rw [exec_all_single]
      refine agree.weaken ?_
      simp [Node.parsed, Block.parsed, Node.parsedAll]
  | .branch kind pos pipe ⟨_, body⟩ (some ⟨_, otherwise⟩), scope, next, statements, named, checked,
      dot, state, page, alike, placed => by
      simp only [Node.named, Block.named, Bool.and_eq_true] at named
      obtain ⟨head, child, inner, innerEnd, other, otherEnd, opened, innerChecked, otherChecked,
        rfl, rfl⟩ := check_branch_ok_iff.mp checked
      have agree := branch_agrees alike placed named.1.1 opened
        (check_nodes_typed body named.1.2 innerChecked).grows
        (check_nodes_typed otherwise named.2 otherChecked).grows
        (nodes_agree body named.1.2 innerChecked) (nodes_agree otherwise named.2 otherChecked dot)
      rw [exec_all_single]
      refine agree.weaken ?_
      simp [Node.parsed, Block.parsed, and_assoc]

theorem nodes_agree {table : Ty} {known : KnownTemplates} : (nodes : List Node) →
    {scope last : Scope} → {statements : List Statement} → Node.namedAll isVariable nodes = true →
    checkNodes known scope nodes = .ok (statements, last) → (dot : Datum F) →
    ArmAgrees world table scope last dot (Node.parsedAll nodes = true) statements
      (Node.interpretAll? world table nodes ⟨scope.context, dot⟩)
  | [], scope, last, statements, _, checked, dot, state, page, alike, _ => by
      simp only [checkNodes, Except.ok.injEq, Prod.mk.injEq] at checked
      obtain ⟨rfl, rfl⟩ := checked
      exact ⟨state, page, rfl, alike, rfl, fun _ => rfl⟩
  | node :: rest, scope, last, statements, named, checked, dot, state, page, alike, placed => by
      simp only [Node.namedAll, Bool.and_eq_true] at named
      obtain ⟨first, next, more, firstChecked, moreChecked, rfl⟩ :=
        check_nodes_cons_ok_iff.mp checked
      have firstGrows := (check_node_typed node named.1 firstChecked).grows
      have moreGrows := (check_nodes_typed rest named.2 moreChecked).grows
      have moreAgrees : ArmAgrees world table next last dot (Node.parsedAll rest = true) more
          (Node.interpretAll? world table rest ⟨next.context, dot⟩) :=
        nodes_agree rest named.2 moreChecked dot
      rw [firstGrows.context] at moreAgrees
      -- the closures fit what the level is in the end, so they fit it behind the first node
      have agree := (node_agrees node named.1 firstChecked dot state page alike
        (placed.before moreGrows)).then fun middle page alikeMiddle declared =>
          moreAgrees middle page alikeMiddle (by rw [declared]; exact placed)
      rw [exec_all_append]
      refine agree.weaken ?_
      simp [Node.parsedAll]

end

end TemplateScript
