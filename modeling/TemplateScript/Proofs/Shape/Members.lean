import TemplateScript.Proofs.Checked.Inversion
import TemplateScript.Proofs.NameMap
import TemplateScript.Shape.Extract
import TemplateScript.Ty.Error

/-!
Which member of a record a name stands for.

A record declares its serialized fields and then its methods, and a name may be declared again. The
type of a name is that of its last declaration. Its property name is kept in a map of its own, to
which only labels that differ from the name are added. So it belongs to the last declaration that
has such a label, and the two part where a declaration without a label follows one that has it.
-/
namespace TemplateScript

/-- A member that a record declares: a field that is serialized under a label, or a method. -/
inductive Declaration
  | field (name label : String) (shape : Shape)
  | method (name : String) (signature : Signature)

namespace Declaration

def name : Declaration → String
  | .field name _ _ | .method name _ => name

def external : Declaration → String
  | .field _ label _ => label
  | .method name _ => name

def extractAt (path : String) : Declaration → Except ExtractError Ty
  | .field name _ shape => shape.extractAt (path ++ "." ++ name)
  | .method name signature => (signature.extractAt (path ++ "." ++ name)).map FunctionType.toTy

def ofField? (field : FieldShape) : Option Declaration :=
  match annotation field.name field.rename with
  | .omitted => none
  | .named label => some (.field field.name label field.shape)

def ofMethod (method : MethodShape) : Declaration :=
  .method method.name method.signature

def all (fields : List FieldShape) (methods : List MethodShape) : List Declaration :=
  fields.filterMap ofField? ++ methods.map ofMethod

def last? (name : String) (declarations : List Declaration) : Option Declaration :=
  (declarations.filter fun declaration => declaration.name = name).getLast?

/-- The declarations whose property name is not the name itself. -/
def labelled (declarations : List Declaration) : List Declaration :=
  declarations.filter fun declaration => declaration.external ≠ declaration.name

/-- The property name that stays for a name. -/
def keptLabel (name : String) (declarations : List Declaration) : String :=
  ((last? name (labelled declarations)).map external).getD name

def extractAll (path : String) (members : Members) :
    List Declaration → Except ExtractError Members
  | [] => .ok members
  | declaration :: rest => do
      let ty ← declaration.extractAt path
      extractAll path (members.addField declaration.name declaration.external ty) rest

theorem last_cons (name : String) (declaration : Declaration) (rest : List Declaration) :
    last? name (declaration :: rest) =
      (last? name rest).or (if declaration.name = name then some declaration else none) := by
  unfold last?
  by_cases own : declaration.name = name
  · simp [own, List.getLast?_cons, Option.or_some]
  · simp [own]

theorem last_mem {name : String} {declarations : List Declaration} {last : Declaration}
    (found : last? name declarations = some last) : last ∈ declarations ∧ last.name = name := by
  have member := List.mem_filter.mp (List.mem_of_getLast? found)
  exact ⟨member.1, by simpa using member.2⟩

theorem last_none_iff {name : String} {declarations : List Declaration} :
    last? name declarations = none ↔ ∀ declaration ∈ declarations, declaration.name ≠ name := by
  simp [last?]

theorem last_cons_some {name : String} {declaration last : Declaration} {rest : List Declaration}
    (found : last? name (declaration :: rest) = some last) :
    last? name rest = some last ∨
      last? name rest = none ∧ declaration.name = name ∧ declaration = last := by
  rw [last_cons] at found
  cases later : last? name rest with
  | some other => simpa [later] using found
  | none => simpa [later] using found

theorem labelled_cons (declaration : Declaration) (rest : List Declaration) :
    labelled (declaration :: rest) =
      if declaration.external = declaration.name then labelled rest
      else declaration :: labelled rest := by
  by_cases plain : declaration.external = declaration.name <;> simp [labelled, plain]

section Extraction

variable {path : String} {members result : Members}

theorem extract_all_append (left right : List Declaration) :
    extractAll path members (left ++ right) =
      (extractAll path members left >>= fun built => extractAll path built right) := by
  induction left generalizing members with
  | nil => rfl
  | cons declaration rest ih =>
      simp only [List.cons_append, extractAll]
      cases declaration.extractAt path with
      | error cause => rfl
      | ok ty => exact ih

theorem fields_eq_extract_all (fields : List FieldShape) :
    FieldShape.extractAll path members fields =
      extractAll path members (fields.filterMap ofField?) := by
  induction fields generalizing members with
  | nil => rfl
  | cons field rest ih =>
      obtain ⟨name, shape, rename⟩ := field
      cases kept : annotation name rename with
      | omitted => simp [FieldShape.extractAll, ofField?, kept, ih]
      | named label =>
          simp [FieldShape.extractAll, ofField?, kept, ih, extractAll, extractAt, Declaration.name,
            external]

theorem methods_eq_extract_all (methods : List MethodShape) :
    MethodShape.extractAll path members methods =
      extractAll path members (methods.map ofMethod) := by
  induction methods generalizing members with
  | nil => rfl
  | cons method rest ih =>
      obtain ⟨name, signature⟩ := method
      have added (function : FunctionType) :
          members.addMethod name function = members.addField name name function.toTy := by
        simp [Members.addMethod, Members.addField]
      simp only [MethodShape.extractAll, List.map_cons, ofMethod, extractAll, extractAt,
        Declaration.name, external, ih, added]
      cases signature.extractAt (path ++ "." ++ name) <;> rfl

theorem record_eq_extract_all (title : Option String) (fields : List FieldShape)
    (methods : List MethodShape) :
    (Shape.record title fields methods).extractAt path =
      (extractAll path ⟨[], []⟩ (all fields methods)).map fun members =>
        .object members.fields members.labels := by
  rw [all, extract_all_append, ← fields_eq_extract_all, Shape.extractAt]
  cases FieldShape.extractAll path ⟨[], []⟩ fields with
  | error cause => rfl
  | ok built =>
      simp only [ok_bind, ← methods_eq_extract_all]
      cases MethodShape.extractAll path built methods <;> rfl

theorem type_untouched {declarations : List Declaration}
    (extracted : extractAll path members declarations = .ok result) {name : String}
    (absent : ∀ declaration ∈ declarations, declaration.name ≠ name) :
    NameMap.get? name result.fields = NameMap.get? name members.fields := by
  induction declarations generalizing members with
  | nil =>
      cases extracted
      rfl
  | cons declaration rest ih =>
      obtain ⟨other, others⟩ := List.forall_mem_cons.mp absent
      obtain ⟨ty, _, continued⟩ := bind_ok_iff.mp extracted
      rw [ih continued others]
      simp [Members.addField, Ne.symm other]

/-- The last declaration of a name gives it its type. -/
theorem type_of_last {declarations : List Declaration}
    (extracted : extractAll path members declarations = .ok result) {name : String}
    {last : Declaration} (found : last? name declarations = some last) :
    ∃ ty, last.extractAt path = .ok ty ∧ NameMap.get? name result.fields = some ty := by
  induction declarations generalizing members with
  | nil => cases found
  | cons declaration rest ih =>
      obtain ⟨ty, own, continued⟩ := bind_ok_iff.mp extracted
      rcases last_cons_some found with later | ⟨absent, rfl, rfl⟩
      · exact ih continued later
      · refine ⟨ty, own, ?_⟩
        rw [type_untouched continued (last_none_iff.mp absent)]
        simp [Members.addField]

/-- The last declaration of a name with a label of its own gives it its property name. -/
theorem label_of_labelled {declarations : List Declaration}
    (extracted : extractAll path members declarations = .ok result) (name : String) :
    NameMap.get? name result.labels =
      ((last? name (labelled declarations)).map external).or
        (NameMap.get? name members.labels) := by
  induction declarations generalizing members with
  | nil =>
      cases extracted
      rfl
  | cons declaration rest ih =>
      obtain ⟨ty, _, continued⟩ := bind_ok_iff.mp extracted
      -- a plain declaration leaves the labels alone, also where an earlier one has put a label
      rw [ih continued, labelled_cons]
      by_cases plain : declaration.external = declaration.name
      · simp [Members.addField, plain]
      · rw [if_neg plain, last_cons]
        cases last? name (labelled rest) with
        | some later => rfl
        | none =>
            by_cases own : declaration.name = name
            · subst own
              simp [Members.addField, plain]
            · simp [Members.addField, plain, own, Ne.symm own]

end Extraction

theorem of_field_named_iff (field : FieldShape) (name : String) :
    (∃ declaration, ofField? field = some declaration ∧ declaration.name = name) ↔
      field.name = name ∧ annotation field.name field.rename ≠ .omitted := by
  unfold ofField?
  cases annotation field.name field.rename with
  | omitted => simp
  | named label => simp [Declaration.name]

theorem declared_iff (fields : List FieldShape) (methods : List MethodShape) (name : String) :
    (∃ declaration ∈ all fields methods, declaration.name = name) ↔
      (∃ field ∈ fields, field.name = name ∧ annotation field.name field.rename ≠ .omitted) ∨
        ∃ method ∈ methods, method.name = name := by
  simp only [← of_field_named_iff, all, List.mem_append, List.mem_filterMap, List.mem_map]
  constructor
  · rintro ⟨declaration, ⟨field, member, own⟩ | ⟨method, member, rfl⟩, same⟩
    · exact .inl ⟨field, member, declaration, own, same⟩
    · exact .inr ⟨method, member, same⟩
  · rintro (⟨field, member, declaration, own, same⟩ | ⟨method, member, same⟩)
    · exact ⟨declaration, .inl ⟨field, member, own⟩, same⟩
    · exact ⟨ofMethod method, .inr ⟨method, member, rfl⟩, same⟩

section Kept

variable {declarations : List Declaration} {name : String} {last : Declaration}

theorem last_labelled (found : last? name declarations = some last)
    (own : last.external ≠ last.name) : last? name (labelled declarations) = some last := by
  induction declarations with
  | nil => cases found
  | cons declaration rest ih =>
      rw [labelled_cons]
      rcases last_cons_some found with later | ⟨absent, rfl, rfl⟩
      · split
        · exact ih later
        · rw [last_cons, ih later, Option.some_or]
      · have others : last? declaration.name (labelled rest) = none := by
          rw [last_none_iff] at absent ⊢
          exact fun other member => absent other (List.mem_filter.mp member).1
        rw [if_neg own, last_cons, others, if_pos rfl, Option.none_or]

theorem kept_label_plain_iff :
    keptLabel name declarations = name ↔
      ∀ declaration ∈ declarations, declaration.name = name → declaration.external = name := by
  have none_iff : last? name (labelled declarations) = none ↔
      ∀ declaration ∈ declarations, declaration.name = name → declaration.external = name := by
    rw [last_none_iff]
    constructor
    · intro absent declaration member same
      refine Decidable.byContradiction fun differs => ?_
      exact absent declaration (List.mem_filter.mpr ⟨member, by simpa [same] using differs⟩) same
    · intro plain declaration member same
      obtain ⟨inside, differs⟩ := List.mem_filter.mp member
      rw [same] at differs
      exact of_decide_eq_true differs (plain declaration inside same)
  rw [← none_iff, keptLabel]
  cases found : last? name (labelled declarations) with
  | none => simp
  | some last =>
      obtain ⟨member, same⟩ := last_mem found
      have differs := of_decide_eq_true (List.mem_filter.mp member).2
      rw [same] at differs
      simpa using differs

/-- The property name is that of the last declaration, unless that one has no label of its own and
an earlier one has. -/
theorem kept_label_last_iff (found : last? name declarations = some last) :
    keptLabel name declarations = last.external ↔
      (last.external = name →
        ∀ declaration ∈ declarations, declaration.name = name → declaration.external = name) := by
  have named := (last_mem found).2
  by_cases plain : last.external = name
  · rw [plain, kept_label_plain_iff]
    exact ⟨fun others _ => others, fun others => others rfl⟩
  · have kept : keptLabel name declarations = last.external := by
      rw [keptLabel, last_labelled found (by rwa [named])]
      rfl
    simp [kept, plain]

end Kept

end Declaration

/-- A name is a field of an extracted record where a serialized field or a method declares it.
Reading it gives the type of its last declaration, and the property name of that same declaration
unless this one has no label of its own and an earlier one has: then the earlier label stays. -/
theorem record_reads_last_declared {path : String} {title : Option String}
    {fields : List FieldShape} {methods : List MethodShape} {ty : Ty}
    (extracted : (Shape.record title fields methods).extractAt path = .ok ty) :
    ∃ types labels, ty = .object types labels ∧ ∀ name,
      (NameMap.contains name types = true ↔
        (∃ field ∈ fields, field.name = name ∧ annotation field.name field.rename ≠ .omitted) ∨
          ∃ method ∈ methods, method.name = name) ∧
      ∀ last, Declaration.last? name (Declaration.all fields methods) = some last →
        ∃ external own, last.extractAt path = .ok own ∧ ty.fieldNamed name = .ok (external, own) ∧
          external = Declaration.keptLabel name (Declaration.all fields methods) ∧
          (external = last.external ↔ (last.external = name →
            ∀ declaration ∈ Declaration.all fields methods, declaration.name = name →
              declaration.external = name)) := by
  rw [Declaration.record_eq_extract_all] at extracted
  obtain ⟨members, built, rfl⟩ := map_ok_iff.mp extracted
  refine ⟨members.fields, members.labels, rfl, fun name => ⟨?_, ?_⟩⟩
  · rw [← Declaration.declared_iff]
    cases found : Declaration.last? name (Declaration.all fields methods) with
    | none =>
        have absent := Declaration.last_none_iff.mp found
        have untouched := Declaration.type_untouched built absent
        simpa [NameMap.contains, untouched, NameMap.get?] using absent
    | some last =>
        obtain ⟨ty, _, own⟩ := Declaration.type_of_last built found
        have declared := Declaration.last_mem found
        exact iff_of_true (NameMap.contains_of_get own) ⟨last, declared⟩
  · intro last found
    obtain ⟨ty, extractedLast, own⟩ := Declaration.type_of_last built found
    have label : Ty.label members.labels name =
        Declaration.keptLabel name (Declaration.all fields methods) := by
      rw [Ty.label, Declaration.label_of_labelled built, Declaration.keptLabel]
      simp [NameMap.get?]
    refine ⟨_, ty, extractedLast, ?_, label, ?_⟩
    · simp [Ty.fieldNamed, own]
    · rw [label]
      exact Declaration.kept_label_last_iff found

def relabelledRecord : Shape :=
  .record (some "Person")
    [⟨"Age", .string, some "age"⟩, ⟨"Secret", .any, some "-"⟩,
      ⟨"Age", .int, some "years,omitempty"⟩]
    [⟨"Greet", ⟨true, [.any], [.string]⟩⟩]

theorem relabelled_age_read :
    ∃ ty, relabelledRecord.extract = .ok ty ∧ ty.fieldNamed "Age" = .ok ("years", .number) := by
  have extracted : relabelledRecord.extract = .ok _ := rfl
  refine ⟨_, extracted, ?_⟩
  obtain ⟨_, _, _, members⟩ := record_reads_last_declared extracted
  obtain ⟨external, own, lastOwn, read, _, kept⟩ :=
    (members "Age").2 (.field "Age" "years" .int) rfl
  have labelOwn : external = "years" := kept.mpr fun same => absurd same (by decide)
  cases lastOwn
  rw [read, labelOwn]

def overlaidFields : List FieldShape :=
  [⟨"A", .string, some "a"⟩, ⟨"A", .int, none⟩]

/-- The property name is that of the first declaration and the type that of the second. -/
theorem overlaid_label_stays :
    ∃ ty last, (Shape.record none overlaidFields []).extract = .ok ty ∧
      Declaration.last? "A" (Declaration.all overlaidFields []) = some last ∧
      ty.fieldNamed "A" = .ok ("a", .number) ∧ last.external = "A" ∧
      ∀ own, ty.fieldNamed "A" ≠ .ok (last.external, own) := by
  refine ⟨.object [("A", .number)] [("A", "a")], .field "A" "A" .int, rfl, rfl, rfl, rfl, ?_⟩
  intro own same
  have labels : "a" = "A" := (Prod.mk.inj (Except.ok.inj same)).1
  exact absurd labels (by decide)

end TemplateScript
