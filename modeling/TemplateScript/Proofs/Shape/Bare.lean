import Mathlib.Data.List.TakeWhile
import TemplateScript.Proofs.Shape.Offences

/-!
What extraction sees through.

A bare shape has no pointers, one kind of number, records without a name, fields that are all
serialized under the label that is written, and signatures without a receiver. Every shape is laid
bare by a rewriting at every depth, also inside of shapes that have no type. Extraction gives the
same result before and after it, and reports the same offence at the same path.
-/
namespace TemplateScript

def isOmitted (rename : Option String) : Bool :=
  rename.any fun text => beforeComma text = "-"

/-- An annotation cut down to its label, which is left out where it says nothing new. -/
def bareRename (name : String) : Option String → Option String
  | none => none
  | some text =>
      if beforeComma text = "" ∨ beforeComma text = name then none else some (beforeComma text)

mutual

/-- A shape without all that leaves no trace in its type. -/
def Shape.bare : Shape → Shape
  | .bool => .bool
  | .int | .uint | .float => .float
  | .string => .string
  | .pointer target => target.bare
  | .sequence element => .sequence element.bare
  | .record _ fields methods =>
      .record none (FieldShape.bareAll fields) (MethodShape.bareAll methods)
  | .function signature => .function signature.bare
  | .map key value => .map key.bare value.bare
  | .any => .any

def Shape.bareAll : List Shape → List Shape
  | [] => []
  | shape :: rest => shape.bare :: Shape.bareAll rest

def FieldShape.bareAll : List FieldShape → List FieldShape
  | [] => []
  | ⟨name, shape, rename⟩ :: rest =>
      if isOmitted rename then FieldShape.bareAll rest
      else ⟨name, shape.bare, bareRename name rename⟩ :: FieldShape.bareAll rest

def MethodShape.bareAll : List MethodShape → List MethodShape
  | [] => []
  | ⟨name, signature⟩ :: rest => ⟨name, signature.bare⟩ :: MethodShape.bareAll rest

def Signature.bare : Signature → Signature
  | ⟨true, [], results⟩ => ⟨false, [], Shape.bareAll results⟩
  | ⟨true, _ :: params, results⟩ | ⟨false, params, results⟩ =>
      ⟨false, Shape.bareAll params, Shape.bareAll results⟩

end

/-- Whether an annotation is a label that differs from the name and is no mark of its own. -/
def isBareRename (name : String) (rename : Option String) : Bool :=
  rename.all fun label =>
    !label.toList.contains ',' && label ≠ "" && label ≠ "-" && label ≠ name

mutual

/-- Whether nothing in a shape is left to see through. -/
def Shape.isBare : Shape → Bool
  | .bool | .float | .string | .any => true
  | .int | .uint | .pointer _ => false
  | .sequence element => element.isBare
  | .record name fields methods =>
      name.isNone && FieldShape.areBare fields && MethodShape.areBare methods
  | .function signature => signature.isBare
  | .map key value => key.isBare && value.isBare

def Shape.areBare : List Shape → Bool
  | [] => true
  | shape :: rest => shape.isBare && Shape.areBare rest

def FieldShape.areBare : List FieldShape → Bool
  | [] => true
  | ⟨name, shape, rename⟩ :: rest =>
      isBareRename name rename && shape.isBare && FieldShape.areBare rest

def MethodShape.areBare : List MethodShape → Bool
  | [] => true
  | ⟨_, signature⟩ :: rest => signature.isBare && MethodShape.areBare rest

def Signature.isBare : Signature → Bool
  | ⟨receiver, params, results⟩ => !receiver && Shape.areBare params && Shape.areBare results

end

theorem comma_not_mem_before_comma (text : String) : ',' ∉ (beforeComma text).toList := by
  intro member
  rw [beforeComma, String.toList_ofList] at member
  have kept := List.mem_takeWhile_imp member
  simp at kept

theorem before_comma_idem (text : String) : beforeComma (beforeComma text) = beforeComma text := by
  have all : (beforeComma text).toList.takeWhile (· ≠ ',') = (beforeComma text).toList := by
    rw [List.takeWhile_eq_self_iff]
    intro c member
    have apart : c ≠ ',' := fun same => comma_not_mem_before_comma text (same ▸ member)
    simpa using apart
  rw [beforeComma, all, String.ofList_toList]

theorem annotation_omitted {name : String} {rename : Option String}
    (omitted : isOmitted rename = true) : annotation name rename = .omitted := by
  cases rename with
  | none => cases omitted
  | some text =>
      have mark : beforeComma text = "-" := by simpa [isOmitted] using omitted
      simp [ annotation, mark]

theorem annotation_bare_rename {name : String} {rename : Option String}
    (kept : isOmitted rename = false) :
    annotation name (bareRename name rename) = annotation name rename := by
  cases rename with
  | none => rfl
  | some text =>
      have mark : beforeComma text ≠ "-" := by simpa [isOmitted] using kept
      by_cases empty : beforeComma text = ""
      · simp [bareRename, annotation, empty]
      · by_cases same : beforeComma text = name
        · subst same
          simp [bareRename, annotation, empty, mark]
        · simp [bareRename, annotation, empty, mark, same, before_comma_idem]

theorem bare_rename_is_bare {name : String} {rename : Option String}
    (kept : isOmitted rename = false) : isBareRename name (bareRename name rename) = true := by
  cases rename with
  | none => rfl
  | some text =>
      have mark : beforeComma text ≠ "-" := by simpa [isOmitted] using kept
      by_cases silent : beforeComma text = "" ∨ beforeComma text = name
      · simp [bareRename, silent, isBareRename]
      · obtain ⟨filled, apart⟩ := not_or.mp silent
        simp [bareRename, isBareRename, comma_not_mem_before_comma, filled, mark, apart]

mutual

theorem Shape.bare_is_bare : (shape : Shape) → shape.bare.isBare = true
  | .bool | .int | .uint | .float | .string | .any => rfl
  | .pointer target => target.bare_is_bare
  | .sequence element => element.bare_is_bare
  | .record _ fields methods => by
      simp [Shape.bare, Shape.isBare, FieldShape.bare_all_are_bare fields,
        MethodShape.bare_all_are_bare methods]
  | .function signature => signature.bare_is_bare
  | .map key value => by
      simp [Shape.bare, Shape.isBare, key.bare_is_bare, value.bare_is_bare]

theorem Shape.bare_all_are_bare :
    (shapes : List Shape) → Shape.areBare (Shape.bareAll shapes) = true
  | [] => rfl
  | shape :: rest => by
      simp [Shape.bareAll, Shape.areBare, shape.bare_is_bare, Shape.bare_all_are_bare rest]

theorem FieldShape.bare_all_are_bare : (fields : List FieldShape) →
    FieldShape.areBare (FieldShape.bareAll fields) = true
  | [] => rfl
  | ⟨name, shape, rename⟩ :: rest => by
      have others := FieldShape.bare_all_are_bare rest
      cases kept : isOmitted rename with
      | true => simpa [FieldShape.bareAll, kept] using others
      | false =>
          simp [FieldShape.bareAll, FieldShape.areBare, kept, bare_rename_is_bare,
            shape.bare_is_bare, others]

theorem MethodShape.bare_all_are_bare : (methods : List MethodShape) →
    MethodShape.areBare (MethodShape.bareAll methods) = true
  | [] => rfl
  | ⟨name, signature⟩ :: rest => by
      simp [MethodShape.bareAll, MethodShape.areBare, signature.bare_is_bare,
        MethodShape.bare_all_are_bare rest]

theorem Signature.bare_is_bare : (signature : Signature) → signature.bare.isBare = true
  | ⟨true, [], results⟩ => by
      simp [Signature.bare, Signature.isBare, Shape.areBare, Shape.bare_all_are_bare results]
  | ⟨true, _ :: params, results⟩ | ⟨false, params, results⟩ => by
      simp [Signature.bare, Signature.isBare, Shape.bare_all_are_bare params,
        Shape.bare_all_are_bare results]

end

theorem Shape.length_bare_all (shapes : List Shape) :
    (Shape.bareAll shapes).length = shapes.length := by
  induction shapes with
  | nil => rfl
  | cons shape rest ih => simp [Shape.bareAll, ih]

mutual

theorem Shape.extract_bare : (shape : Shape) → ∀ path,
    shape.bare.extractAt path = shape.extractAt path
  | .bool | .int | .uint | .float | .string | .any => fun _ => rfl
  | .pointer target => fun path => target.extract_bare path
  | .sequence element => by
      intro path
      simp only [Shape.bare, Shape.extractAt, element.extract_bare]
  | .record _ fields methods => by
      intro path
      simp only [Shape.bare, Shape.extractAt, FieldShape.extract_bare_all fields,
        MethodShape.extract_bare_all methods]
  | .function signature => by
      intro path
      simp only [Shape.bare, Shape.extractAt, signature.extract_bare]
  | .map _ _ => fun _ => rfl

theorem FieldShape.extract_bare_all : (fields : List FieldShape) → ∀ path members,
    FieldShape.extractAll path members (FieldShape.bareAll fields) =
      FieldShape.extractAll path members fields
  | [] => fun _ _ => rfl
  | ⟨name, shape, rename⟩ :: rest => by
      intro path members
      cases kept : isOmitted rename with
      | true =>
          simp only [FieldShape.bareAll, kept, if_true, FieldShape.extractAll,
            annotation_omitted kept, FieldShape.extract_bare_all rest]
      | false =>
          simp only [FieldShape.bareAll, kept, Bool.false_eq_true, if_false, FieldShape.extractAll,
            annotation_bare_rename kept, shape.extract_bare, FieldShape.extract_bare_all rest]

theorem MethodShape.extract_bare_all : (methods : List MethodShape) → ∀ path members,
    MethodShape.extractAll path members (MethodShape.bareAll methods) =
      MethodShape.extractAll path members methods
  | [] => fun _ _ => rfl
  | ⟨name, signature⟩ :: rest => by
      intro path members
      simp only [MethodShape.bareAll, MethodShape.extractAll, signature.extract_bare,
        MethodShape.extract_bare_all rest]

/-- Parameters are counted without the receiver, so that none of them moves. -/
theorem Signature.extract_bare : (signature : Signature) → ∀ path,
    signature.bare.extractAt path = signature.extractAt path
  | ⟨true, [], results⟩ => by
      intro path
      rw [Signature.extract_eq, Signature.extract_eq]
      exact Shape.extract_results_bare results path []
  | ⟨true, _ :: params, results⟩ | ⟨false, params, results⟩ => by
      intro path
      rw [Signature.extract_eq, Signature.extract_eq]
      simp only [Signature.bare, Signature.given, Bool.false_eq_true, if_false, if_true,
        List.tail_cons, Shape.extract_params_bare params, Shape.extract_results_bare results]

theorem Shape.extract_params_bare : (params : List Shape) → ∀ path index,
    Shape.extractParams path index (Shape.bareAll params) = Shape.extractParams path index params
  | [] => fun _ _ => rfl
  | param :: rest => by
      intro path index
      simp only [Shape.bareAll, Shape.extractParams, param.extract_bare,
        Shape.extract_params_bare rest]

theorem Shape.extract_results_bare : (results : List Shape) → ∀ path args,
    Shape.extractResults path args (Shape.bareAll results) = Shape.extractResults path args results
  | [] => fun _ _ => rfl
  | [single] => by
      intro path args
      simp only [Shape.bareAll, Shape.extractResults, single.extract_bare]
  | first :: second :: rest => by
      intro path args
      simp [Shape.bareAll, Shape.extractResults, Shape.length_bare_all]

end

/-- Laying a shape bare leaves nothing to see through, and extraction does not notice it: the same
type is extracted, or the same offence is reported at the same path. -/
theorem extract_bare_eq (shape : Shape) :
    shape.bare.isBare = true ∧ shape.bare.extract = shape.extract :=
  ⟨shape.bare_is_bare, shape.extract_bare "$"⟩

example :
    Shape.bare (.record (some "Row")
      [⟨"Name", .pointer .string, some "Name,omitempty"⟩, ⟨"Secret", .any, some "-"⟩,
        ⟨"Size", .uint, some "size,string"⟩]
      [⟨"Find", ⟨true, [.any, .int], []⟩⟩]) =
    .record none [⟨"Name", .string, none⟩, ⟨"Size", .float, some "size"⟩]
      [⟨"Find", ⟨false, [.float], []⟩⟩] := rfl

end TemplateScript
