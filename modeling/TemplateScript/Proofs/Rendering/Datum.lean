import TemplateScript.Builtin.Value
import TemplateScript.Ty.Error

/-!
Data that templates are rendered with, and when they conform to a type.

A datum is a value whose functions can be told apart, so that a world can say what calling them
gives. Nothing else is known about a world: its functions are any pure functions of the object they
are called on and of their arguments, and rendering another template is any function of its name
and context.
-/
namespace TemplateScript

inductive Datum (F : Type)
  | undefined
  | null
  | bool (value : Bool)
  | number (value : Double)
  | string (text : Units)
  | array (items : List (Datum F))
  | object (members : List (Units × Datum F))
  | function (id : F)

variable {F : Type}

namespace Datum

mutual

/-- The value with its functions made alike, which is all that printing and tests look at. -/
def value : Datum F → Value
  | .undefined => .undefined
  | .null => .null
  | .bool value => .bool value
  | .number value => .number value
  | .string text => .string text
  | .array items => .array (values items)
  | .object members => .object (memberValues members)
  | .function _ => .function

def values : List (Datum F) → List Value
  | [] => []
  | item :: rest => item.value :: values rest

def memberValues : List (Units × Datum F) → List (Units × Value)
  | [] => []
  | (name, item) :: rest => (name, item.value) :: memberValues rest

end

def member? (name : String) : Datum F → Option (Datum F)
  | .object members => members.lookup (units name)
  | _ => none

end Datum

structure World (F : Type) where
  /-- The result of a function for the object it is called on and its arguments. -/
  apply : F → Datum F → List (Datum F) → Datum F
  globals : Datum F
  render : String → Option (Datum F) → Units

mutual

/-- Objects have every field under its property name and may have other members. Functions give
conforming results whatever they are called with. -/
def Conforms (world : World F) : Ty → Datum F → Prop
  | .boolean, datum => ∃ value, datum = .bool value
  | .number, datum => ∃ value, datum = .number value
  | .string, datum => ∃ text, datum = .string text
  | .object fields labels, datum =>
      (∃ members, datum = .object members) ∧ FieldsConform world labels fields datum
  | .array element, datum =>
      ∃ items, datum = .array items ∧ ∀ item ∈ items, Conforms world element item
  | .function _ none, datum => ∃ id, datum = .function id
  | .function _ (some ret), datum =>
      ∃ id, datum = .function id ∧ ∀ this args, Conforms world ret (world.apply id this args)

def FieldsConform (world : World F) (labels : List (String × String)) :
    List (String × Ty) → Datum F → Prop
  | [], _ => True
  | (name, ty) :: rest, datum =>
      (∃ found, datum.member? (Ty.label labels name) = some found ∧ Conforms world ty found) ∧
        FieldsConform world labels rest datum

end

variable {world : World F}

theorem fields_conform_get {labels : List (String × String)} {fields : List (String × Ty)}
    {datum : Datum F} (conforms : FieldsConform world labels fields datum) {name : String} {ty : Ty}
    (field : NameMap.get? name fields = some ty) :
    ∃ found, datum.member? (Ty.label labels name) = some found ∧ Conforms world ty found := by
  induction fields with
  | nil => cases field
  | cons entry rest ih =>
      obtain ⟨key, own⟩ := entry
      simp only [FieldsConform] at conforms
      by_cases same : key = name
      · subst same
        simp only [NameMap.get?, if_true, Option.some.injEq] at field
        subst field
        exact conforms.1
      · simp only [NameMap.get?, if_neg same] at field
        exact ih conforms.2 field

theorem Conforms.field {subject : Ty} {datum : Datum F} (conforms : Conforms world subject datum)
    {ident name : String} {ty : Ty} (named : subject.fieldNamed ident = .ok (name, ty)) :
    ∃ found, datum.member? name = some found ∧ Conforms world ty found := by
  cases subject with
  | object fields labels =>
      simp only [Ty.fieldNamed] at named
      split at named
      · next field =>
          simp only [Except.ok.injEq, Prod.mk.injEq] at named
          obtain ⟨rfl, rfl⟩ := named
          exact fields_conform_get conforms.2 field
      · cases named
  | _ => cases named

theorem Conforms.call {params : List Ty} {ret : Ty} {datum : Datum F}
    (conforms : Conforms world (.function params (some ret)) datum) :
    ∃ id, datum = .function id ∧
      ∀ this args, Conforms world ret (world.apply id this args) := by
  simpa only [Conforms] using conforms

theorem Conforms.items {element : Ty} {datum : Datum F}
    (conforms : Conforms world (.array element) datum) :
    ∃ items, datum = .array items ∧ ∀ item ∈ items, Conforms world element item := by
  simpa only [Conforms] using conforms

/-- Only arrays are taken for false where the script language takes them for true, and they conform
to array types alone. -/
theorem Conforms.truth {ty : Ty} {datum : Datum F} (conforms : Conforms world ty datum)
    (plain : ty.isArray = false) : datum.value.truth = datum.value.scriptTruth := by
  cases ty with
  | array element => cases plain
  | boolean | number | string =>
      obtain ⟨_, rfl⟩ := conforms
      rfl
  | object fields labels =>
      obtain ⟨⟨_, rfl⟩, _⟩ := conforms
      rfl
  | function params ret =>
      have function : ∃ id, datum = .function id := by
        cases ret with
        | none => exact conforms
        | some ret => exact ⟨_, conforms.call.choose_spec.1⟩
      obtain ⟨_, rfl⟩ := function
      rfl

/-- What the script language makes of a primitive value is what a template prints for it. -/
theorem Conforms.convert {ty : Ty} {datum : Datum F} (conforms : Conforms world ty datum)
    (primitive : ty.isPrimitive = true) : datum.value.convert = .ok datum.value.print := by
  cases ty with
  | boolean | number | string =>
      obtain ⟨_, rfl⟩ := conforms
      rfl
  | _ => cases primitive

mutual

/-- A test of conformance, for worlds whose functions give the same result whatever they are called
with. -/
def conformsTest (result : F → Datum F) : Ty → Datum F → Bool
  | .boolean, .bool _ | .number, .number _ | .string, .string _ => true
  | .object fields labels, .object members => fieldsTest result labels fields (.object members)
  | .array element, .array items => items.all (conformsTest result element)
  | .function _ none, .function _ => true
  | .function _ (some ret), .function id => conformsTest result ret (result id)
  | _, _ => false

def fieldsTest (result : F → Datum F) (labels : List (String × String)) :
    List (String × Ty) → Datum F → Bool
  | [], _ => true
  | (name, ty) :: rest, datum =>
      (match datum.member? (Ty.label labels name) with
        | some found => conformsTest result ty found
        | none => false) && fieldsTest result labels rest datum

end

mutual

theorem conforms_of_test {result : F → Datum F}
    (same : ∀ id this args, world.apply id this args = result id) : (ty : Ty) → (datum : Datum F) →
    conformsTest result ty datum = true → Conforms world ty datum
  | .boolean, .bool value, _ => ⟨value, rfl⟩
  | .number, .number value, _ => ⟨value, rfl⟩
  | .string, .string text, _ => ⟨text, rfl⟩
  | .object fields labels, .object members, passed =>
      ⟨⟨members, rfl⟩, fields_conform_of_test same labels fields (.object members) passed⟩
  | .array element, .array items, passed =>
      ⟨items, rfl, fun item member =>
        conforms_of_test same element item (List.all_eq_true.mp passed item member)⟩
  | .function _ none, .function id, _ => ⟨id, rfl⟩
  | .function _ (some ret), .function id, passed =>
      ⟨id, rfl, fun this args => by
        rw [same]
        exact conforms_of_test same ret (result id) passed⟩

theorem fields_conform_of_test {result : F → Datum F}
    (same : ∀ id this args, world.apply id this args = result id)
    (labels : List (String × String)) : (fields : List (String × Ty)) → (datum : Datum F) →
    fieldsTest result labels fields datum = true → FieldsConform world labels fields datum
  | [], _, _ => trivial
  | (name, ty) :: rest, datum, passed => by
      simp only [fieldsTest, Bool.and_eq_true] at passed
      refine ⟨?_, fields_conform_of_test same labels rest datum passed.2⟩
      cases present : datum.member? (Ty.label labels name) with
      | none => simp [present] at passed
      | some found =>
          rw [present] at passed
          exact ⟨found, rfl, conforms_of_test same ty found passed.1⟩

end

end TemplateScript
