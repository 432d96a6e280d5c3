import TemplateScript.Options
import TemplateScript.Proofs.NameMap

/-!
Extraction reports the first of all offences.

The offences of a shape are listed without stopping at any of them. Shapes that extraction never
looks at have none: a field that is not serialized, the receiver of a method, the results of a
function that has more than one. Extraction stops where the list begins, so it fails exactly when
there is an offence, and then with the first one.
-/
namespace TemplateScript

mutual

/-- Everything in a shape that has no static type, in the order in which the shape is walked. -/
def Shape.offences (path : String) : Shape → List ExtractError
  | .bool | .int | .uint | .float | .string => []
  | .pointer target => target.offences path
  | .sequence element => element.offences (path ++ "[]")
  | .record _ fields methods =>
      FieldShape.offencesAll path fields ++ MethodShape.offencesAll path methods
  | .function signature => signature.offences path
  | .map _ _ => [.unsupportedShape path .map]
  | .any => [.unsupportedShape path .any]

def FieldShape.offencesAll (path : String) : List FieldShape → List ExtractError
  | [] => []
  | ⟨name, shape, rename⟩ :: rest =>
      (if annotation name rename = .omitted then [] else shape.offences (path ++ "." ++ name)) ++
        FieldShape.offencesAll path rest

def MethodShape.offencesAll (path : String) : List MethodShape → List ExtractError
  | [] => []
  | ⟨name, signature⟩ :: rest =>
      signature.offences (path ++ "." ++ name) ++ MethodShape.offencesAll path rest

/-- The receiver is no parameter, and parameters are counted without it. -/
def Signature.offences (path : String) : Signature → List ExtractError
  | ⟨true, [], results⟩ => Shape.offencesOfResults path results
  | ⟨true, _ :: params, results⟩ | ⟨false, params, results⟩ =>
      Shape.offencesOfParams path 0 params ++ Shape.offencesOfResults path results

def Shape.offencesOfParams (path : String) (index : Nat) : List Shape → List ExtractError
  | [] => []
  | param :: rest =>
      param.offences (path ++ "#" ++ toString index) ++ Shape.offencesOfParams path (index + 1) rest

def Shape.offencesOfResults (path : String) : List Shape → List ExtractError
  | [] => []
  | [single] => single.offences (path ++ "#ret")
  | many => [.multipleReturns path many.length]

end

def Options.offences (options : Options) : List ExtractError :=
  options.funcs.flatMap fun entry => entry.2.offences entry.1

/-- A computation that succeeds where nothing is listed and else fails with what is listed first. -/
inductive ReportsFirst {α : Type} : List ExtractError → Except ExtractError α → Prop
  | ok (value : α) : ReportsFirst [] (.ok value)
  | error (cause : ExtractError) (others : List ExtractError) :
      ReportsFirst (cause :: others) (.error cause)

namespace ReportsFirst

variable {α β : Type} {offences rest : List ExtractError} {outcome : Except ExtractError α}

theorem map {f : α → β} (reports : ReportsFirst offences outcome) :
    ReportsFirst offences (outcome.map f) := by
  cases reports with
  | ok value => exact .ok (f value)
  | error cause others => exact .error cause others

theorem returning {f : α → β} (reports : ReportsFirst offences outcome) :
    ReportsFirst offences (outcome >>= fun value => pure (f value)) := by
  cases reports with
  | ok value => exact .ok (f value)
  | error cause others => exact .error cause others

/-- What follows a computation is only reached where nothing was listed before. -/
theorem bind {next : α → Except ExtractError β} (reports : ReportsFirst offences outcome)
    (continued : ∀ value, ReportsFirst rest (next value)) :
    ReportsFirst (offences ++ rest) (outcome >>= next) := by
  cases reports with
  | ok value => exact continued value
  | error cause others => exact .error cause (others ++ rest)

theorem error_iff (reports : ReportsFirst offences outcome) (cause : ExtractError) :
    outcome = .error cause ↔ offences.head? = some cause := by
  cases reports with
  | ok value => simp
  | error first others => simp

theorem fails_iff (reports : ReportsFirst offences outcome) :
    (∃ cause, outcome = .error cause) ↔ offences ≠ [] := by
  cases reports with
  | ok value => simp
  | error cause others => simp

end ReportsFirst

/-- The last step of extracting a function, whose arguments have been extracted. -/
def Shape.extractResults (path : String) (args : List Ty) :
    List Shape → Except ExtractError FunctionType
  | [] => .ok ⟨args, none⟩
  | [single] => do return ⟨args, some (← single.extractAt (path ++ "#ret"))⟩
  | many => .error (.multipleReturns path many.length)

def Signature.given (signature : Signature) : List Shape :=
  if signature.receiver then signature.params.tail else signature.params

theorem Signature.extract_eq (path : String) (signature : Signature) :
    signature.extractAt path =
      (Shape.extractParams path 0 signature.given >>= fun args =>
        Shape.extractResults path args signature.results) := by
  obtain ⟨receiver, params, results⟩ := signature
  -- the outcome of the arguments is looked at by every case of the results
  rcases results with _ | ⟨single, _ | ⟨second, more⟩⟩ <;> cases receiver <;> cases params <;> rfl

mutual

theorem Shape.extract_reports : (shape : Shape) → ∀ path,
    ReportsFirst (shape.offences path) (shape.extractAt path)
  | .bool | .int | .uint | .float | .string => fun _ => .ok _
  | .pointer target => fun path => target.extract_reports path
  | .sequence element => fun path => (element.extract_reports (path ++ "[]")).map
  | .record _ fields methods => by
      intro path
      refine (FieldShape.extract_reports fields path ⟨[], []⟩).bind fun members => ?_
      exact (MethodShape.extract_reports methods path members).returning
  | .function signature => fun path => (signature.extract_reports path).map
  | .map _ _ | .any => fun _ => .error _ []

theorem FieldShape.extract_reports : (fields : List FieldShape) → ∀ path members,
    ReportsFirst (FieldShape.offencesAll path fields) (FieldShape.extractAll path members fields)
  | [] => fun _ members => .ok members
  | ⟨name, shape, rename⟩ :: rest => by
      intro path members
      rw [FieldShape.offencesAll, FieldShape.extractAll]
      cases annotation name rename with
      | omitted => exact FieldShape.extract_reports rest path members
      | named label =>
          rw [if_neg (by simp)]
          refine (shape.extract_reports (path ++ "." ++ name)).bind fun ty => ?_
          exact FieldShape.extract_reports rest path (members.addField name label ty)

theorem MethodShape.extract_reports : (methods : List MethodShape) → ∀ path members,
    ReportsFirst (MethodShape.offencesAll path methods)
      (MethodShape.extractAll path members methods)
  | [] => fun _ members => .ok members
  | ⟨name, signature⟩ :: rest => by
      intro path members
      refine (signature.extract_reports (path ++ "." ++ name)).bind fun function => ?_
      exact MethodShape.extract_reports rest path (members.addMethod name function)

theorem Signature.extract_reports : (signature : Signature) → ∀ path,
    ReportsFirst (signature.offences path) (signature.extractAt path)
  | ⟨true, [], results⟩ => by
      intro path
      rw [Signature.extract_eq]
      exact Shape.extract_results_report results path []
  | ⟨true, _ :: params, results⟩ | ⟨false, params, results⟩ => by
      intro path
      rw [Signature.extract_eq]
      refine (Shape.extract_params_report params path 0).bind fun args => ?_
      exact Shape.extract_results_report results path args

theorem Shape.extract_params_report : (params : List Shape) → ∀ path index,
    ReportsFirst (Shape.offencesOfParams path index params)
      (Shape.extractParams path index params)
  | [] => fun _ _ => .ok []
  | param :: rest => by
      intro path index
      refine (param.extract_reports (path ++ "#" ++ toString index)).bind fun ty => ?_
      exact (Shape.extract_params_report rest path (index + 1)).returning

theorem Shape.extract_results_report : (results : List Shape) → ∀ path args,
    ReportsFirst (Shape.offencesOfResults path results) (Shape.extractResults path args results)
  | [] => fun _ _ => .ok _
  | [single] => fun path _ => (single.extract_reports (path ++ "#ret")).returning
  | _ :: _ :: _ => fun _ _ => .error _ []

end

theorem function_types_report (funcs : NameMap Signature) :
    ReportsFirst (funcs.flatMap fun entry => entry.2.offences entry.1) (functionTypes funcs) := by
  induction funcs with
  | nil => exact .ok []
  | cons entry rest ih =>
      obtain ⟨name, signature⟩ := entry
      exact (signature.extract_reports name).bind fun function => ih.returning

/-- In an ordered table, what is listed first stands under the least name with an offence. -/
theorem first_offence_iff {funcs : NameMap Signature} (ordered : NameMap.Ordered funcs)
    (cause : ExtractError) :
    (funcs.flatMap fun entry => entry.2.offences entry.1).head? = some cause ↔
      ∃ name signature, (name, signature) ∈ funcs ∧
        (signature.offences name).head? = some cause ∧
        ∀ earlier other, (earlier, other) ∈ funcs → earlier < name →
          other.offences earlier = [] := by
  rw [List.head?_flatMap]
  constructor
  · intro listed
    obtain ⟨before, ⟨name, signature⟩, after, rfl, reported, clean⟩ :=
      List.findSome?_eq_some_iff.mp listed
    have greater := (List.pairwise_cons.mp (List.pairwise_append.mp ordered).2.1).1
    refine ⟨name, signature, by simp, reported, ?_⟩
    intro earlier other member less
    rcases List.mem_append.mp member with front | back
    · exact List.head?_eq_none_iff.mp (clean _ front)
    · rcases List.mem_cons.mp back with same | behind
      · cases same
        exact absurd less (String.lt_irrefl name)
      · exact absurd less (String.lt_asymm (greater _ behind))
  · rintro ⟨name, signature, member, reported, clean⟩
    obtain ⟨before, after, rfl⟩ := List.append_of_mem member
    have smaller := (List.pairwise_append.mp ordered).2.2
    refine List.findSome?_eq_some_iff.mpr ⟨before, _, after, rfl, reported, ?_⟩
    intro entry front
    have less : entry.1 < name := smaller entry front _ List.mem_cons_self
    rw [clean entry.1 entry.2 (List.mem_append_left _ front) less]
    rfl

/-- Extraction fails exactly when something has no static type, and it reports what comes first of
all that has none. The functions of options are extracted in the order of their names, so that what
is reported stands under the least name with an offence. -/
theorem extraction_reports_first_offence (shape : Shape) (options : Options) :
    ((∃ cause, shape.extract = .error cause) ↔ shape.offences "$" ≠ []) ∧
    (∀ cause, shape.extract = .error cause ↔ (shape.offences "$").head? = some cause) ∧
    ((∃ cause, options.functionTypes = .error cause) ↔ options.offences ≠ []) ∧
    (∀ cause, options.functionTypes = .error cause ↔ options.offences.head? = some cause) ∧
    (∀ cause, options.functionTypes = .error cause ↔
      ∃ name signature, (name, signature) ∈ options.funcs ∧
        (signature.offences name).head? = some cause ∧
        ∀ earlier other, (earlier, other) ∈ options.funcs → earlier < name →
          other.offences earlier = []) := by
  have shapeReports := shape.extract_reports "$"
  have tableReports := function_types_report options.funcs
  refine ⟨shapeReports.fails_iff, shapeReports.error_iff, tableReports.fails_iff,
    tableReports.error_iff, ?_⟩
  intro cause
  exact (tableReports.error_iff cause).trans (first_offence_iff options.ordered cause)

/-- Of what has no type here, the secret and the receiver are not looked at, and neither is a
result, since there are two. -/
def unfitShape : Shape :=
  .record (some "Page")
    [⟨"Secret", .any, some "-"⟩,
      ⟨"Rows", .sequence (.pointer (.record none []
        [⟨"Find", ⟨true, [.any, .string, .map .string .any], [.any, .any]⟩⟩])), some "rows"⟩,
      ⟨"Extra", .any, none⟩]
    []

def unfitOptions : Options :=
  ((Options.default.withFunc "swap" ⟨false, [.any], []⟩).withFunc "join"
    ⟨false, [.sequence .string], [.string]⟩).withFunc "split" ⟨false, [.string], [.string, .any]⟩

theorem unfit_shape_reported :
    unfitShape.offences "$" =
      [.unsupportedShape "$.Rows[].Find#1" .map, .multipleReturns "$.Rows[].Find" 2,
        .unsupportedShape "$.Extra" .any] ∧
    unfitShape.extract = .error (.unsupportedShape "$.Rows[].Find#1" .map) ∧
    unfitOptions.functionTypes = .error (.multipleReturns "split" 2) := by
  have listed : unfitShape.offences "$" =
      [.unsupportedShape "$.Rows[].Find#1" .map, .multipleReturns "$.Rows[].Find" 2,
        .unsupportedShape "$.Extra" .any] := by decide
  obtain ⟨_, first, _, _, least⟩ := extraction_reports_first_offence unfitShape unfitOptions
  have table : unfitOptions.funcs =
      [("join", ⟨false, [.sequence .string], [.string]⟩),
        ("split", ⟨false, [.string], [.string, .any]⟩), ("swap", ⟨false, [.any], []⟩)] := rfl
  refine ⟨listed, (first _).mpr (by rw [listed]; rfl), (least _).mpr ?_⟩
  refine ⟨"split", ⟨false, [.string], [.string, .any]⟩, by simp [table], rfl, ?_⟩
  intro earlier other member less
  simp only [table, List.mem_cons, Prod.mk.injEq, List.not_mem_nil, or_false] at member
  rcases member with ⟨rfl, rfl⟩ | ⟨rfl, rfl⟩ | ⟨rfl, rfl⟩
  · rfl
  · exact absurd less (by decide)
  · exact absurd less (by decide)

end TemplateScript
