import TemplateScript.Proofs.Rendering.Invariant

/-!
Expressions of a checked template have the values of the pipelines they come from.

A typed expression evaluates, to a value of its type, and so does each of its parts. What the tree
says a pipeline means is the value of the expression that the checker made of it. Both hold wherever
the variables mirror each other and the dot and the functions conform to what the scope says.
-/
namespace TemplateScript

variable {F : Type} {world : World F}

/-- Where an expression and the pipeline that it comes from are evaluated. -/
structure Situated (world : World F) (scope : Scope) (around : Surroundings F)
    (closures : List (Closure F)) : Prop where
  dot : around.dot.ty = scope.context
  context : Conforms world scope.context around.dot.datum
  table : around.table = scope.globals
  functions : Conforms world scope.globals world.globals
  sees : Sees world scope.levels around.blocks closures

theorem Situated.child {scope : Scope} {around : Surroundings F} {closures : List (Closure F)}
    (here : Situated world scope around closures) : Situated world scope.child around closures where
  dot := here.dot
  context := here.context
  table := here.table.trans (Scope.globals_child scope).symm
  functions := by rw [Scope.globals_child]; exact here.functions
  sees := fun var name ty isVar found => by
    rw [Scope.lookup_child] at found
    exact here.sees var name ty isVar found

def Trace.Conform (world : World F) (trace : Trace F) : Prop :=
  ∀ entry ∈ trace, Conforms world entry.1.ty entry.2

theorem Trace.Conform.cons {found : Expr} {datum : Datum F} {trace : Trace F}
    (conforms : Conforms world found.ty datum) (rest : trace.Conform world) :
    Trace.Conform world ((found, datum) :: trace) := by
  intro entry member
  rcases List.mem_cons.mp member with rfl | later
  · exact conforms
  · exact rest entry later

theorem Trace.Conform.append {first second : Trace F} (left : first.Conform world)
    (right : second.Conform world) : Trace.Conform world (first ++ second) := by
  intro entry member
  rcases List.mem_append.mp member with early | late
  · exact left entry early
  · exact right entry late

theorem Trace.Conform.single {found : Expr} {datum : Datum F}
    (conforms : Conforms world found.ty datum) : Trace.Conform world [(found, datum)] :=
  Trace.Conform.cons conforms (by simp [Trace.Conform])

/-- The expression has a value of its type, and so have the parts it is made of. -/
def Expr.Sound (world : World F) (context : Datum F) (closures : List (Closure F))
    (found : Expr) : Prop :=
  ∃ datum trace, found.eval world context closures = .ok (datum, trace) ∧
    Conforms world found.ty datum ∧ trace.Conform world

theorem eval_all_sound {context : Datum F} {closures : List (Closure F)} {args : List Expr}
    (each : ∀ arg ∈ args, arg.Sound world context closures) :
    ∃ values trace, Expr.evalAll world context closures args = .ok (values, trace) ∧
      trace.Conform world := by
  induction args with
  | nil => exact ⟨[], [], rfl, by simp [Trace.Conform]⟩
  | cons first rest ih =>
      obtain ⟨datum, trace, evaluated, _, conform⟩ := each first (by simp)
      obtain ⟨values, more, others, moreConform⟩ :=
        ih (fun arg member => each arg (by simp [member]))
      refine ⟨datum :: values, trace ++ more, ?_, conform.append moreConform⟩
      simp [Expr.evalAll, evaluated, others]

theorem member_of_some {name : String} {this found : Datum F}
    (present : this.member? name = some found) : this.member name = .ok found := by
  simp [Datum.member, present]

theorem field_sound {context : Datum F} {closures : List (Closure F)} {subject : Expr}
    {ident name : String} {ty : Ty} (sound : subject.Sound world context closures)
    (named : subject.ty.fieldNamed ident = .ok (name, ty)) :
    (Expr.field subject name ty).Sound world context closures := by
  obtain ⟨this, trace, evaluated, conforms, conform⟩ := sound
  obtain ⟨found, present, foundConforms⟩ := conforms.field named
  refine ⟨found, (.field subject name ty, found) :: trace, ?_, foundConforms,
    conform.cons foundConforms⟩
  simp [Expr.eval, evaluated, member_of_some present]

theorem method_sound {context : Datum F} {closures : List (Closure F)} {subject : Expr}
    {ident name : String} {params : List Ty} {ret : Ty} {args : List Expr}
    (sound : subject.Sound world context closures)
    (named : subject.ty.fieldNamed ident = .ok (name, .function params (some ret)))
    (argsSound : ∀ arg ∈ args, arg.Sound world context closures) :
    (Expr.method subject name args ret).Sound world context closures := by
  obtain ⟨this, trace, evaluated, conforms, conform⟩ := sound
  obtain ⟨callee, present, calleeConforms⟩ := conforms.field named
  obtain ⟨id, rfl, results⟩ := calleeConforms.call
  obtain ⟨values, more, others, moreConform⟩ := eval_all_sound argsSound
  refine ⟨world.apply id this values, (.method subject name args ret, world.apply id this values) ::
    (trace ++ more), ?_, results this values,
    (conform.append moreConform).cons (results this values)⟩
  simp [Expr.eval, evaluated, member_of_some present, others, Datum.call]

theorem Expr.Typed.sound {scope : Scope} {around : Surroundings F} {closures : List (Closure F)}
    {found : Expr} (typed : found.Typed isVariable scope)
    (here : Situated world scope around closures) :
    found.Sound world around.dot.datum closures := by
  induction typed with
  | constant value =>
      have conforms : Conforms world value.ty (Datum.ofConstant value) := by
        cases value <;> exact ⟨_, rfl⟩
      exact ⟨_, _, rfl, conforms, Trace.Conform.single conforms⟩
  | field _ named _ ih => exact field_sound ih named
  | method _ named _ ih argsIh => exact method_sound ih named argsIh
  | call entry _ argsIh =>
      -- the table stands in front of a call like any other object, though it is not typed itself
      have table : (Expr.globals scope.globals).Sound world around.dot.datum closures :=
        ⟨_, _, rfl, here.functions, Trace.Conform.single here.functions⟩
      exact method_sound table (Scope.globals_field entry) argsIh
  | @slot var name ty isVar entry =>
      obtain ⟨datum, _, inClosures, conforms⟩ := here.sees var name ty isVar entry
      refine ⟨datum, [(.slot name ty, datum)], ?_, conforms,
        Trace.Conform.single conforms⟩
      simp [Expr.eval, Closure.read, inClosures]
  | context =>
      exact ⟨_, _, rfl, here.context, Trace.Conform.single here.context⟩

theorem eval_field_ok {context : Datum F} {closures : List (Closure F)} {subject : Expr}
    {name : String} {ty : Ty} {this datum : Datum F} {trace whole : Trace F}
    (evaluated : subject.eval world context closures = .ok (this, trace))
    (found : (Expr.field subject name ty).eval world context closures = .ok (datum, whole)) :
    this.member? name = some datum := by
  simp only [Expr.eval, evaluated, bind_ok_iff, pure_ok_iff, Except.ok.injEq,
    Prod.mk.injEq] at found
  obtain ⟨_, rfl, member, read, rfl, _⟩ := found
  unfold Datum.member at read
  split at read
  · next present => rw [present, Except.ok.inj read]
  · cases read

theorem eval_method_ok {context : Datum F} {closures : List (Closure F)} {subject : Expr}
    {name : String} {args : List Expr} {ty : Ty} {this datum : Datum F} {values : List (Datum F)}
    {trace more whole : Trace F}
    (evaluated : subject.eval world context closures = .ok (this, trace))
    (others : Expr.evalAll world context closures args = .ok (values, more))
    (found : (Expr.method subject name args ty).eval world context closures = .ok (datum, whole)) :
    ∃ id, this.member? name = some (.function id) ∧ datum = world.apply id this values := by
  simp only [Expr.eval, evaluated, others, bind_ok_iff, pure_ok_iff, Except.ok.injEq,
    Prod.mk.injEq] at found
  obtain ⟨_, rfl, callee, read, _, rfl, result, called, rfl, _⟩ := found
  unfold Datum.member at read
  split at read
  · next present =>
      rw [Except.ok.inj read] at present
      unfold Datum.call at called
      split at called
      · next id => exact ⟨id, present, (Except.ok.inj called).symm⟩
      · cases called
  · cases read

theorem eval_all_append {context : Datum F} {closures : List (Closure F)} {first second : List Expr}
    {left right : List (Datum F)} {trace more : Trace F}
    (leftEvaluated : Expr.evalAll world context closures first = .ok (left, trace))
    (rightEvaluated : Expr.evalAll world context closures second = .ok (right, more)) :
    Expr.evalAll world context closures (first ++ second) = .ok (left ++ right, trace ++ more) := by
  induction first generalizing left trace with
  | nil =>
      simp only [Expr.evalAll, Except.ok.injEq, Prod.mk.injEq] at leftEvaluated
      obtain ⟨rfl, rfl⟩ := leftEvaluated
      exact rightEvaluated
  | cons arg rest ih =>
      simp only [Expr.evalAll, bind_ok_iff, pure_ok_iff, Prod.mk.injEq] at leftEvaluated
      obtain ⟨⟨datum, own⟩, evaluated, ⟨values, others⟩, restEvaluated, rfl, rfl⟩ := leftEvaluated
      simp [Expr.evalAll, evaluated, ih restEvaluated]

theorem member_means {context : Datum F} {closures : List (Closure F)} {subject found : Expr}
    {ident : String} {args : List Expr} {this datum : Datum F} {values : List (Datum F)}
    {trace more whole : Trace F} (read : readMember subject ident args = .ok found)
    (evaluated : subject.eval world context closures = .ok (this, trace))
    (others : Expr.evalAll world context closures args = .ok (values, more))
    (result : found.eval world context closures = .ok (datum, whole)) :
    Reflected.member? world ident values ⟨subject.ty, this⟩ = some ⟨found.ty, datum⟩ := by
  obtain ⟨name, ty, named, ⟨params, ret, rfl, rfl⟩ | ⟨plain, rfl, rfl⟩⟩ := read_member_ok read
  · obtain ⟨id, present, rfl⟩ := eval_method_ok evaluated others result
    simp only [Reflected.member?, named, present]
    rfl
  · have present := eval_field_ok evaluated result
    have none : values = [] := by
      simp only [Expr.evalAll, Except.ok.injEq, Prod.mk.injEq] at others
      exact others.1.symm
    subst none
    cases ty with
    | function params ret => exact absurd rfl (plain params ret)
    | _ =>
        simp only [Reflected.member?, named, present, List.isEmpty_nil, if_true]
        rfl

/-- Calling a function is reading a member of the table. -/
theorem call_function_member {scope : Scope} {ident : String} {args : List Expr} {found : Expr}
    (called : callFunction scope ident args = .ok found) :
    readMember (.globals scope.globals) ident args = .ok found := by
  obtain ⟨generated, params, ret, entry, rfl⟩ := call_function_ok called
  have named := Scope.globals_field entry
  simp [readMember, Expr.ty, named, invoke]

section

variable {scope : Scope} {around : Surroundings F} {closures : List (Closure F)}

/-- Members are read one after another on both sides. The arguments need a member to go to. -/
theorem chain_means (here : Situated world scope around closures) {args : List Expr}
    {values : List (Datum F)} {more whole : Trace F} {idents : List String} {datum : Datum F}
    {found : Expr} (argsTyped : ∀ arg ∈ args, arg.Typed isVariable scope)
    (others : Expr.evalAll world around.dot.datum closures args = .ok (values, more))
    (fits : idents = [] → args = [])
    (result : found.eval world around.dot.datum closures = .ok (datum, whole))
    {subject : Expr} {this : Datum F} {trace : Trace F}
    (typed : subject.Typed isVariable scope)
    (evaluated : subject.eval world around.dot.datum closures = .ok (this, trace))
    (read : readChain subject args idents = .ok found) :
    Reflected.chain? world values idents ⟨subject.ty, this⟩ = some ⟨found.ty, datum⟩ := by
  induction idents generalizing subject this trace with
  | nil =>
      have none := fits rfl
      subst none
      simp only [Expr.evalAll, Except.ok.injEq, Prod.mk.injEq] at others
      obtain ⟨rfl, _⟩ := others
      rw [← Except.ok.inj read, evaluated] at result
      simp only [Except.ok.injEq, Prod.mk.injEq] at result
      rw [← Except.ok.inj read, ← result.1]
      rfl
  | cons ident rest ih =>
      cases rest with
      | nil => exact member_means read evaluated others result
      | cons next rest =>
          obtain ⟨member, first, further⟩ := bind_ok_iff.mp read
          have memberTyped := read_member_typed typed (by simp) first
          obtain ⟨value, memberTrace, memberEvaluated, _⟩ := memberTyped.sound here
          have step := member_means first evaluated rfl memberEvaluated
          have tail := ih (by simp) memberTyped memberEvaluated further
          simp [Reflected.chain?, step, tail]

theorem Situated.dot_eq (here : Situated world scope around closures) :
    (⟨scope.context, around.dot.datum⟩ : Reflected F) = around.dot := by
  rw [← here.dot]

theorem field_means (here : Situated world scope around closures) {args : List Expr}
    {values : List (Datum F)} {more whole : Trace F} {idents : List String} {datum : Datum F}
    {found : Expr} (argsTyped : ∀ arg ∈ args, arg.Typed isVariable scope)
    (others : Expr.evalAll world around.dot.datum closures args = .ok (values, more))
    (fielded : (!idents.isEmpty) = true)
    (read : readChain (.context scope.context) args idents = .ok found)
    (result : found.eval world around.dot.datum closures = .ok (datum, whole)) :
    around.dot.chain? world values idents = some ⟨found.ty, datum⟩ := by
  have fits : idents = [] → args = [] := by
    intro same
    subst same
    cases fielded
  rw [← here.dot_eq]
  exact chain_means here argsTyped others fits result .context rfl read

theorem variable_means (here : Situated world scope around closures) {args : List Expr}
    {values : List (Datum F)} {more whole : Trace F} {reading : Variable} {datum : Datum F}
    {found : Expr} (named : reading.named isVariable = true)
    (argsTyped : ∀ arg ∈ args, arg.Typed isVariable scope)
    (others : Expr.evalAll world around.dot.datum closures args = .ok (values, more))
    (read : readVariable scope reading.ident args = .ok found)
    (result : found.eval world around.dot.datum closures = .ok (datum, whole)) :
    ∃ first rest value, reading.ident = first :: rest ∧
      Stack.find? first around.blocks = some value ∧
      value.chain? world values rest = some ⟨found.ty, datum⟩ := by
  obtain ⟨first, rest, name, ty, spelled, entry, fits, chained⟩ := read_variable_ok read
  have isVar : isVariable first = true := by simpa [Variable.named, spelled] using named
  obtain ⟨this, inBlocks, inClosures, _⟩ := here.sees first name ty isVar entry
  have evaluated : (Expr.slot name ty).eval world around.dot.datum closures =
      .ok (this, [(.slot name ty, this)]) := by
    simp [Expr.eval, Closure.read, inClosures]
  exact ⟨first, rest, ⟨ty, this⟩, spelled, inBlocks,
    chain_means here argsTyped others fits result (.slot isVar entry) evaluated chained⟩

theorem function_means (here : Situated world scope around closures) {args : List Expr}
    {values : List (Datum F)} {more whole : Trace F} {ident : String} {datum : Datum F}
    {found : Expr} (others : Expr.evalAll world around.dot.datum closures args = .ok (values, more))
    (called : callFunction scope ident args = .ok found)
    (result : found.eval world around.dot.datum closures = .ok (datum, whole)) :
    Reflected.member? world ident values ⟨around.table, world.globals⟩ =
      some ⟨found.ty, datum⟩ := by
  have meant := member_means (call_function_member called) rfl others result
  rw [here.table]
  exact meant

def Taken (world : World F) (context : Datum F) (closures : List (Closure F)) :
    Option Expr → Option (Reflected F) → Prop
  | none, none => True
  | some own, some value =>
      value.ty = own.ty ∧ ∃ trace, own.eval world context closures = .ok (value.datum, trace)
  | _, _ => False

theorem Taken.evaluated {context : Datum F} {piped : Option Expr} {value : Option (Reflected F)}
    (taken : Taken world context closures piped value) :
    ∃ more, Expr.evalAll world context closures piped.toList =
      .ok ((value.map Reflected.datum).toList, more) := by
  cases piped with
  | none =>
      cases value with
      | none => exact ⟨[], rfl⟩
      | some value => exact taken.elim
  | some own =>
      cases value with
      | none => exact taken.elim
      | some value =>
          obtain ⟨_, trace, evaluated⟩ := taken
          refine ⟨trace ++ [], ?_⟩
          simp [Expr.evalAll, evaluated]

theorem Taken.value {context : Datum F} {own : Expr} {value : Option (Reflected F)}
    (taken : Taken world context closures (some own) value) {datum : Datum F} {trace : Trace F}
    (result : own.eval world context closures = .ok (datum, trace)) :
    value = some ⟨own.ty, datum⟩ := by
  cases value with
  | none => exact taken.elim
  | some value =>
      obtain ⟨same, ownTrace, evaluated⟩ := taken
      rw [evaluated] at result
      simp only [Except.ok.injEq, Prod.mk.injEq] at result
      rw [← same, ← result.1]

theorem plain_head_alone {context : Datum F} {rest : List Arg} {args : List Expr}
    {piped : Option Expr} {value : Option (Datum F)} {more : Trace F}
    (checked : checkArgs scope rest = .ok args) (empty : args ++ piped.toList = [])
    (pipedMeans : Expr.evalAll world context closures piped.toList = .ok (value.toList, more)) :
    rest = [] ∧ value = none := by
  obtain ⟨rfl, none⟩ := List.append_eq_nil_iff.mp empty
  constructor
  · cases rest with
    | nil => rfl
    | cons arg rest =>
        obtain ⟨_, _, _, _, same⟩ := check_args_ok checked
        cases same
  · rw [none] at pipedMeans
    simp only [Expr.evalAll, Except.ok.injEq, Prod.mk.injEq] at pipedMeans
    exact Option.toList_eq_nil_iff.mp pipedMeans.1.symm

mutual

theorem arg_means (here : Situated world scope around closures) : (arg : Arg) → {found : Expr} →
    {datum : Datum F} → {trace : Trace F} → arg.named isVariable = true → arg.fielded = true →
    checkArg scope arg = .ok found →
    found.eval world around.dot.datum closures = .ok (datum, trace) →
    arg.evaluate? world around = some ⟨found.ty, datum⟩
  | .number pos literal, found, datum, trace, _, _, checked, result => by
      simp only [checkArg, located_ok_iff] at checked
      obtain ⟨value, known, rfl⟩ := number_constant_ok checked
      simp only [Expr.ofConstant, Expr.eval, Except.ok.injEq, Prod.mk.injEq] at result
      rw [Arg.evaluate?, known, ← result.1]
      rfl
  | .string pos content, found, datum, trace, _, _, checked, result => by
      rw [← Except.ok.inj checked] at result ⊢
      simp only [Expr.ofConstant, Expr.eval, Except.ok.injEq, Prod.mk.injEq] at result
      rw [Arg.evaluate?, ← result.1]
      rfl
  | .bool pos value, found, datum, trace, _, _, checked, result => by
      rw [← Except.ok.inj checked] at result ⊢
      simp only [Expr.ofConstant, Expr.eval, Except.ok.injEq, Prod.mk.injEq] at result
      rw [Arg.evaluate?, ← result.1]
      rfl
  | .dot pos, found, datum, trace, _, _, checked, result => by
      rw [← Except.ok.inj checked] at result ⊢
      simp only [Expr.eval, Except.ok.injEq, Prod.mk.injEq] at result
      rw [Arg.evaluate?, ← result.1, ← here.dot_eq]
      rfl
  | .field pos ident, found, datum, trace, _, fielded, checked, result => by
      simp only [checkArg, located_ok_iff] at checked
      exact field_means here (by simp) rfl fielded checked result
  | .identifier pos ident, found, datum, trace, _, _, checked, result => by
      simp only [checkArg, located_ok_iff] at checked
      exact function_means here rfl checked result
  | .var ⟨pos, ident⟩, found, datum, trace, named, _, checked, result => by
      simp only [checkArg, located_ok_iff] at checked
      obtain ⟨first, rest, value, rfl, inBlocks, meant⟩ :=
        variable_means here named (by simp) rfl checked result
      simp [Arg.evaluate?, inBlocks, meant]
  | .pipe inner, found, datum, trace, named, fielded, checked, result => by
      simp only [checkArg] at checked
      split at checked
      · exact pipe_means here inner named fielded checked result
      · cases checked

theorem args_mean (here : Situated world scope around closures) : (args : List Arg) →
    {found : List Expr} → {values : List (Datum F)} → {trace : Trace F} →
    Arg.namedAll isVariable args = true → Arg.fieldedAll args = true →
    checkArgs scope args = .ok found →
    Expr.evalAll world around.dot.datum closures found = .ok (values, trace) →
    Arg.evaluateAll? world around args = some values
  | [], found, values, trace, _, _, checked, result => by
      rw [← Except.ok.inj checked] at result
      simp only [Expr.evalAll, Except.ok.injEq, Prod.mk.injEq] at result
      rw [Arg.evaluateAll?, result.1]
  | arg :: rest, found, values, trace, named, fielded, checked, result => by
      simp only [Arg.namedAll, Arg.fieldedAll, Bool.and_eq_true] at named fielded
      obtain ⟨first, others, firstChecked, othersChecked, rfl⟩ := check_args_ok checked
      simp only [Expr.evalAll, bind_ok_iff, pure_ok_iff, Prod.mk.injEq] at result
      obtain ⟨⟨datum, own⟩, evaluated, ⟨more, further⟩, othersEvaluated, rfl, _⟩ := result
      have firstMeans := arg_means here arg named.1 fielded.1 firstChecked evaluated
      have othersMean := args_mean here rest named.2 fielded.2 othersChecked othersEvaluated
      simp [Arg.evaluateAll?, firstMeans, othersMean]

theorem command_means (here : Situated world scope around closures) {whole : Pipe}
    {piped : Option Expr} {value : Option (Datum F)} {more : Trace F}
    (pipedTyped : ∀ found ∈ piped, found.Typed isVariable scope)
    (pipedMeans : Expr.evalAll world around.dot.datum closures piped.toList =
      .ok (value.toList, more)) : (command : Command) → {found : Expr} → {datum : Datum F} →
    {trace : Trace F} → command.named isVariable = true → command.fielded = true →
    checkCommand scope whole piped command = .ok found →
    found.eval world around.dot.datum closures = .ok (datum, trace) →
    command.evaluate? world around value = some ⟨found.ty, datum⟩
  | ⟨pos, []⟩, found, datum, trace, _, _, checked, _ => by cases checked
  | ⟨pos, head :: rest⟩, found, datum, trace, named, fielded, checked, result => by
      simp only [Command.named, Command.fielded, Arg.namedAll, Arg.fieldedAll,
        Bool.and_eq_true] at named fielded
      obtain ⟨_, _, args, same, argsChecked, headChecked⟩ := check_command_ok checked
      obtain ⟨rfl, rfl⟩ := List.cons.inj same
      have explicitTyped := check_args_typed rest named.2 argsChecked
      obtain ⟨values, valuesTrace, evaluated, _⟩ :=
        eval_all_sound fun arg member => (explicitTyped arg member).sound here
      have argsTyped : ∀ arg ∈ args ++ piped.toList, arg.Typed isVariable scope := by
        intro arg member
        rcases List.mem_append.mp member with explicit | last
        · exact explicitTyped arg explicit
        · exact pipedTyped arg (by simpa using last)
      have others := eval_all_append evaluated pipedMeans
      have argsMean := args_mean here rest named.2 fielded.2 argsChecked evaluated
      have headMeans := fun own : checkArg scope head = .ok found =>
        arg_means here head named.1 fielded.1 own result
      cases head with
      | identifier pos ident =>
          simp only [checkHead, located_ok_iff] at headChecked
          have meant := function_means here others headChecked result
          simp [Command.evaluate?, argsMean, meant]
      | field pos ident =>
          simp only [checkHead, located_ok_iff] at headChecked
          have meant := field_means here argsTyped others fielded.1 headChecked result
          simp [Command.evaluate?, argsMean, meant]
      | var reading =>
          simp only [checkHead, located_ok_iff] at headChecked
          obtain ⟨first, idents, found, spelled, inBlocks, meant⟩ :=
            variable_means here named.1 argsTyped others headChecked result
          obtain ⟨pos, ident⟩ := reading
          subst spelled
          simp [Command.evaluate?, argsMean, inBlocks, meant]
      | _ =>
          obtain ⟨empty, own⟩ := check_head_value_ok (by simp) headChecked
          have alone := plain_head_alone argsChecked empty pipedMeans
          simp [Command.evaluate?, alone, headMeans own]

theorem commands_mean (here : Situated world scope around closures) {whole : Pipe} :
    (commands : List Command) → {piped : Option Expr} → {value : Option (Reflected F)} →
    {found : Expr} → {datum : Datum F} → {trace : Trace F} →
    (∀ own ∈ piped, own.Typed isVariable scope) →
    Taken world around.dot.datum closures piped value →
    Command.namedAll isVariable commands = true → Command.fieldedAll commands = true →
    checkCommands scope whole piped commands = .ok (some found) →
    found.eval world around.dot.datum closures = .ok (datum, trace) →
    Command.evaluateAll? world around value commands = some ⟨found.ty, datum⟩
  | [], piped, value, found, datum, trace, _, taken, _, _, checked, result => by
      rw [Except.ok.inj checked] at taken
      exact taken.value result
  | command :: rest, piped, value, found, datum, trace, pipedTyped, taken, named, fielded, checked,
      result => by
      simp only [Command.namedAll, Command.fieldedAll, Bool.and_eq_true] at named fielded
      obtain ⟨first, firstChecked, further⟩ := bind_ok_iff.mp checked
      obtain ⟨more, pipedMeans⟩ := taken.evaluated
      have firstTyped := check_command_typed pipedTyped command named.1 firstChecked
      obtain ⟨this, firstTrace, firstEvaluated, _⟩ := firstTyped.sound here
      have firstMeans := command_means here pipedTyped pipedMeans command named.1 fielded.1
        firstChecked firstEvaluated
      have handed : Taken world around.dot.datum closures (some first) (some ⟨first.ty, this⟩) :=
        ⟨rfl, firstTrace, firstEvaluated⟩
      have restMean := commands_mean here rest (by simpa using firstTyped) handed named.2 fielded.2
        further result
      simp [Command.evaluateAll?, firstMeans, restMean]

theorem pipe_means (here : Situated world scope around closures) : (pipe : Pipe) →
    {found : Expr} → {datum : Datum F} → {trace : Trace F} → pipe.named isVariable = true →
    pipe.fielded = true → checkPipe scope pipe = .ok found →
    found.eval world around.dot.datum closures = .ok (datum, trace) →
    pipe.evaluate? world around = some ⟨found.ty, datum⟩
  | ⟨pos, assigns, targets, commands⟩, found, datum, trace, named, fielded, checked, result => by
      simp only [Pipe.named, Pipe.fielded, Bool.and_eq_true] at named fielded
      have nothing : Taken world around.dot.datum closures none none := trivial
      exact commands_mean here commands (by simp) nothing named.2 fielded (check_pipe_ok checked)
        result

end

end

end TemplateScript
