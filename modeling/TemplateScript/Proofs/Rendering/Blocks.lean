import TemplateScript.Proofs.Rendering.Evaluation

/-!
Running a script and going through its tree, block by block.

Script and tree are alike at a place when their variables mirror each other, the text so far is the
same and everything the script evaluated was of its type. They agree on a piece of the template when
being alike in front of it makes them alike behind it. A block is a new closure on one side and a
new list of variables on the other, and both are gone behind it, so script and tree agree on a block
if they agree on what is in it.
-/
namespace TemplateScript

variable {F : Type} {world : World F}

structure Alike (world : World F) (table : Ty) (scope : Scope) (dot : Datum F) (state : State F)
    (page : Page F) : Prop where
  regular : Scope.Regular scope.levels
  sameTable : scope.globals = table
  functions : Conforms world table world.globals
  context : Conforms world scope.context dot
  mirrors : Mirrors world scope.levels page.blocks state.closures
  seen : state.seen.Conform world
  out : state.out = page.out

/-- The script runs, and keeps the names of its closures. The tree is only asked for its side if it
is as parsers yield them. -/
def Agree (world : World F) (table : Ty) (last : Scope) (dot : Datum F) (state : State F)
    (parsed : Prop) (ran : Except Stuck (State F)) (shown : Option (Page F)) : Prop :=
  ∃ after page, ran = .ok after ∧ Alike world table last dot after page ∧
    Stack.declared after.closures = Stack.declared state.closures ∧ (parsed → shown = some page)

/-- Script and tree agree on the statements of an arm, wherever they are alike in front of them. -/
def ArmAgrees (world : World F) (table : Ty) (child last : Scope) (dot : Datum F) (parsed : Prop)
    (body : List Statement) (show? : Page F → Option (Page F)) : Prop :=
  ∀ state page, Alike world table child dot state page →
    Placed last.levels (Stack.declared state.closures) →
    Agree world table last dot state parsed (Statement.execAll world body dot state) (show? page)

section

variable {table : Ty} {scope : Scope} {dot : Datum F} {state : State F} {page : Page F}

theorem Alike.situated (alike : Alike world table scope dot state page) :
    Situated world scope (page.around table ⟨scope.context, dot⟩) state.closures where
  dot := rfl
  context := alike.context
  table := alike.sameTable.symm
  functions := by rw [alike.sameTable]; exact alike.functions
  sees := alike.mirrors.sees

/-- Nothing else changes from one place to a later one at the same level. -/
theorem Alike.onward {next : Scope} {after : State F} {later : Page F}
    (alike : Alike world table scope dot state page) (grows : scope.Grows next)
    (mirrors : Mirrors world next.levels later.blocks after.closures)
    (seen : after.seen.Conform world) (out : after.out = later.out) :
    Alike world table next dot after later where
  regular := grows.regular alike.regular
  sameTable := grows.functions.globals.trans alike.sameTable
  functions := alike.functions
  context := by rw [grows.context]; exact alike.context
  mirrors := mirrors
  seen := seen
  out := out

theorem Alike.traced (alike : Alike world table scope dot state page) {trace : Trace F}
    (conform : trace.Conform world) :
    Alike world table scope dot { state with seen := state.seen ++ trace } page :=
  alike.onward (.refl scope) alike.mirrors (alike.seen.append conform) alike.out

theorem Alike.append (alike : Alike world table scope dot state page) (text : Units) :
    Alike world table scope dot (state.append text) (page.append text) :=
  alike.onward (.refl scope) alike.mirrors alike.seen (congrArg (· ++ text) alike.out)

/-- A checked pipeline is evaluated by the script, and the tree has the same value for it. -/
theorem pipe_evaluates {inner : Scope} {reflected : Ty}
    (here : Situated world inner (page.around table ⟨reflected, dot⟩) state.closures) {pipe : Pipe}
    {value : Expr} (named : pipe.named isVariable = true)
    (checked : checkPipe inner pipe = .ok value) :
    ∃ datum trace,
      state.evaluate world dot value = .ok (datum, { state with seen := state.seen ++ trace }) ∧
      Conforms world value.ty datum ∧ trace.Conform world ∧
      (pipe.fielded = true → pipe.evaluate? world (page.around table ⟨reflected, dot⟩) =
        some ⟨value.ty, datum⟩) := by
  obtain ⟨datum, trace, evaluated, conforms, conform⟩ :=
    (check_pipe_typed pipe named checked).sound here
  refine ⟨datum, trace, ?_, conforms, conform,
    fun fielded => pipe_means here pipe named fielded checked evaluated⟩
  have evaluatedHere : value.eval world dot state.closures = .ok (datum, trace) := evaluated
  simp [State.evaluate, evaluatedHere]

/-- The scope of an arm, which starts with the given variables. -/
structure Opens (scope child : Scope) (params : List (String × Reflected F)) : Prop where
  outer : child.outer = scope.levels
  bindings : child.level.bindings = paramTypes params
  plain : child.level.renamed = []
  functions : child.SameFunctions scope
  written : ∀ param ∈ params, isVariable param.1 = true

theorem Opens.binds {child : Scope} {params : List (String × Reflected F)}
    (opens : Opens scope child params) (name : String) :
    child.level.binds name = true ↔ name ∈ params.map Prod.fst := by
  simp [Level.binds, opens.bindings, paramTypes, NameMap.contains_of_list]

theorem Opens.generated {child : Scope} {params : List (String × Reflected F)}
    (opens : Opens scope child params) (name : String) :
    child.level.generatedName name = name := by
  simp [Level.generatedName, opens.plain, NameMap.get?]

theorem Opens.regular {child : Scope} {params : List (String × Reflected F)}
    (opens : Opens scope child params) (regular : Scope.Regular scope.levels) :
    Scope.Regular child.levels := by
  refine ⟨⟨?_, ?_⟩, ?_⟩
  · intro name bound
    obtain ⟨param, member, rfl⟩ := List.mem_map.mp ((opens.binds name).mp bound)
    exact .inl (opens.written param member)
  · intro name generated entry
    simp [opens.plain, NameMap.get?] at entry
  · rw [opens.outer]
    exact regular

theorem contains_start (params : List (String × Datum F)) (hoisted : List String) (key : String) :
    NameMap.contains key (Closure.start params hoisted) = true ↔
      key ∈ params.map Prod.fst ∨ key ∈ hoisted := by
  have hoistedNames : (hoisted.map fun name => (name, (none : Option (Datum F)))).map Prod.fst =
      hoisted := by simp [Function.comp_def]
  simp [Closure.start, NameMap.contains_insert_all, NameMap.contains_of_list, hoistedNames]

/-- A closure whose parameters are in the frame has exactly the names of the frame. -/
theorem contains_of_block {params : List (String × Datum F)} {frame : Frame}
    (inFrame : ∀ name ∈ params.map Prod.fst, frame.has name = true) :
    (fun name => NameMap.contains name (Closure.ofBlock params frame)) = frame.has := by
  funext name
  rw [Bool.eq_iff_iff, Closure.ofBlock, contains_start, Frame.hoisted, List.mem_filter,
    NameMap.mem_keys_iff]
  constructor
  · intro given
    rcases given with param | ⟨hoisted, _⟩
    · exact inFrame name param
    · exact hoisted
  · intro present
    by_cases param : name ∈ params.map Prod.fst
    · exact .inl param
    · exact .inr ⟨present, by simpa using param⟩

/-- Parameters keep their names to the end of the block, so the closure has no others than the
frame. -/
theorem Opens.closure_names {child bodyEnd : Scope} {params : List (String × Reflected F)}
    (opens : Opens scope child params) (grows : child.Grows bodyEnd) :
    (fun name => NameMap.contains name (Closure.ofBlock (paramData params) bodyEnd.toFrame)) =
      bodyEnd.toFrame.has := by
  apply contains_of_block
  intro name member
  have param : name ∈ params.map Prod.fst := by simpa [paramData, Function.comp_def] using member
  obtain ⟨bound, kept⟩ := grows.kept name ((opens.binds name).mpr param)
  exact (has_to_frame name bodyEnd.level).mpr ⟨name, bound, kept.trans (opens.generated name)⟩

theorem Opens.end_covers {child bodyEnd : Scope} {params : List (String × Reflected F)}
    (opens : Opens scope child params) (grows : child.Grows bodyEnd)
    (regular : Scope.Regular scope.levels) :
    bodyEnd.level.Covers bodyEnd.outer bodyEnd.toFrame.has :=
  frame_covers (grows.regular (opens.regular regular)).1

theorem Opens.placed {child bodyEnd : Scope} {params : List (String × Reflected F)}
    {closures : List (Closure F)} (opens : Opens scope child params) (grows : child.Grows bodyEnd)
    (regular : Scope.Regular scope.levels)
    (placed : Placed scope.levels (Stack.declared closures)) :
    Placed bodyEnd.levels
      (Stack.declared (Closure.ofBlock (paramData params) bodyEnd.toFrame :: closures)) := by
  have covers := opens.end_covers grows regular
  have outer : bodyEnd.outer = scope.levels := grows.outer.trans opens.outer
  rw [Scope.levels, Stack.declared, List.map_cons, opens.closure_names grows]
  rw [outer] at covers ⊢
  exact .block covers placed

theorem Opens.alike {child bodyEnd : Scope} {params : List (String × Reflected F)}
    {inner : Datum F} (opens : Opens scope child params) (grows : child.Grows bodyEnd)
    (alike : Alike world table scope dot state page)
    (conform : ∀ param ∈ params, Conforms world param.2.ty param.2.datum)
    (context : Conforms world child.context inner) :
    Alike world table child inner
      { state with closures :=
          Closure.ofBlock (paramData params) bodyEnd.toFrame :: state.closures }
      { page with blocks := NameMap.ofList params :: page.blocks } where
  regular := opens.regular alike.regular
  sameTable := opens.functions.globals.trans alike.sameTable
  functions := alike.functions
  context := context
  mirrors := by
    have covers := grows.covers _ (opens.end_covers grows alike.regular)
    rw [opens.outer, ← opens.closure_names grows] at covers
    rw [Scope.levels, opens.outer]
    exact alike.mirrors.enter alike.regular opens.bindings opens.plain conform covers
  seen := alike.seen
  out := alike.out

/-- Script and tree agree on a block if they agree on what is in it. -/
theorem block_agrees {child bodyEnd : Scope} {params : List (String × Reflected F)}
    {inner : Datum F} {body : List Statement} {parsed : Prop} {show? : Page F → Option (Page F)}
    (alike : Alike world table scope dot state page)
    (placed : Placed scope.levels (Stack.declared state.closures))
    (opens : Opens scope child params)
    (conform : ∀ param ∈ params, Conforms world param.2.ty param.2.datum)
    (context : Conforms world child.context inner) (grows : child.Grows bodyEnd)
    (agrees : ArmAgrees world table child bodyEnd inner parsed body show?) :
    Agree world table scope dot state parsed
      (state.inside (.ofBlock (paramData params) bodyEnd.toFrame)
        (Statement.execAll world body inner))
      (page.inside? params show?) := by
  obtain ⟨after, shown, ran, alikeAfter, declared, showed⟩ := agrees _ _
    (opens.alike grows alike conform context) (opens.placed grows alike.regular placed)
  have mirrors := alikeAfter.mirrors
  rw [Scope.levels, grows.outer, opens.outer] at mirrors
  refine ⟨{ after with closures := after.closures.tail },
    { shown with blocks := shown.blocks.tail }, ?_, ?_, ?_, ?_⟩
  · rw [State.inside, ran]
    rfl
  · exact alike.onward (.refl scope) (alike.mirrors.leave mirrors) alikeAfter.seen alikeAfter.out
  · have tails := congrArg List.tail declared
    simpa [Stack.declared, List.map_tail] using tails
  · intro isParsed
    rw [Page.inside?, showed isParsed]
    rfl

end

end TemplateScript
