import TemplateScript.Proofs.Json.Documents
import TemplateScript.Proofs.NameMap
import TemplateScript.Ty.Document

/-!
Types read back from their documents.

The fields and labels of an object type are maps, and a map that is read is built by insertion. So a
type comes back as it was where its maps are ordered, and whatever is loaded has ordered maps.
-/
namespace TemplateScript.Ty

open Json

mutual

/-- The maps of the type are ordered, at every depth. -/
def Ordered : Ty → Prop
  | .boolean | .number | .string => True
  | .object fields labels =>
      NameMap.Ordered fields ∧ NameMap.Ordered labels ∧ FieldsOrdered fields
  | .array element => element.Ordered
  | .function args none => AllOrdered args
  | .function args (some ret) => AllOrdered args ∧ ret.Ordered

def FieldsOrdered : List (String × Ty) → Prop
  | [] => True
  | (_, ty) :: rest => ty.Ordered ∧ FieldsOrdered rest

def AllOrdered : List Ty → Prop
  | [] => True
  | ty :: rest => ty.Ordered ∧ AllOrdered rest

end

theorem all_ordered_iff (types : List Ty) : AllOrdered types ↔ ∀ ty ∈ types, ty.Ordered := by
  induction types with
  | nil => simp [AllOrdered]
  | cons ty rest ih => simp [AllOrdered, ih]

theorem fields_ordered_iff (fields : List (String × Ty)) :
    FieldsOrdered fields ↔ ∀ entry ∈ fields, entry.2.Ordered := by
  induction fields with
  | nil => simp [FieldsOrdered]
  | cons entry rest ih => simp [FieldsOrdered, ih]

theorem fields_ordered_insert (name : String) {ty : Ty} {fields : List (String × Ty)}
    (own : ty.Ordered) (others : FieldsOrdered fields) :
    FieldsOrdered (NameMap.insert name ty fields) := by
  rw [fields_ordered_iff] at others ⊢
  intro entry member
  rcases NameMap.mem_insert member with rfl | old
  · exact own
  · exact others entry old

theorem label_members_plain (labels : List (String × String)) :
    MembersPlain (labelMembers labels) := by
  induction labels with
  | nil => trivial
  | cons entry rest ih => exact ⟨trivial, ih⟩

mutual

theorem to_json_plain : (ty : Ty) → ty.toJson.Plain
  | .boolean | .number | .string => ⟨trivial, trivial⟩
  | .object fields labels =>
      ⟨trivial, field_members_plain fields, label_members_plain labels, trivial⟩
  | .array element => ⟨trivial, element.to_json_plain, trivial⟩
  | .function args none => ⟨trivial, to_json_all_plain args, trivial, trivial⟩
  | .function args (some ret) => ⟨trivial, to_json_all_plain args, ret.to_json_plain, trivial⟩

theorem field_members_plain : (fields : List (String × Ty)) → MembersPlain (fieldMembers fields)
  | [] => trivial
  | (_, ty) :: rest => ⟨ty.to_json_plain, field_members_plain rest⟩

theorem to_json_all_plain : (types : List Ty) → ItemsPlain (toJsonAll types)
  | [] => trivial
  | ty :: rest => ⟨ty.to_json_plain, to_json_all_plain rest⟩

end

theorem read_label_members (labels : List (String × String)) :
    entries? text? (.object (labelMembers labels)) = some labels := by
  induction labels with
  | nil => rfl
  | cons entry rest ih => exact entries_cons rfl ih

theorem present (ty : Ty) : ty.toJson ≠ .null := by
  cases ty with
  | function args ret => cases ret <;> simp [toJson]
  | _ => simp [toJson]

mutual

theorem read_to_json : (ty : Ty) → ∀ nesting nested, ty.toJson.depth ≤ nesting → ty.Ordered →
    read? nesting nested ty.toJson = some ty
  | .boolean | .number | .string => by
      intro nesting nested within _
      obtain ⟨deeper, rfl, _⟩ := object_within within
      simp [toJson, read?, kinds, List.lookup_cons]
  | .object fields labels => by
      intro nesting nested within ⟨fieldOrder, labelOrder, inner⟩
      obtain ⟨deeper, rfl, inside⟩ := object_within within
      simp only [depthOfMembers, depth] at inside
      have fieldsRead := read_field_members fields deeper (by omega) inner
      simp [toJson, read?, kinds, List.lookup_cons, required?, defaulted?, fieldsRead,
        read_label_members, NameMap.of_list_ordered fieldOrder, NameMap.of_list_ordered labelOrder]
  | .array element => by
      intro nesting nested within ordered
      obtain ⟨deeper, rfl, inside⟩ := object_within within
      simp only [depthOfMembers] at inside
      have read := element.read_to_json deeper true (by omega) ordered
      simp [toJson, read?, kinds, List.lookup_cons, required?, read]
  | .function args none => by
      intro nesting nested within ordered
      obtain ⟨deeper, rfl, inside⟩ := object_within within
      simp only [depthOfMembers, depth] at inside
      have argsRead := read_to_json_all args deeper (by omega) ordered
      simp [toJson, read?, kinds, List.lookup_cons, required?, nullable?, argsRead]
  | .function args (some ret) => by
      intro nesting nested within ⟨argsOrdered, retOrdered⟩
      obtain ⟨deeper, rfl, inside⟩ := object_within within
      simp only [depthOfMembers, depth] at inside
      have argsRead := read_to_json_all args deeper (by omega) argsOrdered
      have retRead := nullable_present ret.present
        (ret.read_to_json deeper true (by omega) retOrdered)
      simp [toJson, read?, kinds, List.lookup_cons, required?, argsRead, retRead]

theorem read_field_members : (fields : List (String × Ty)) → ∀ nesting,
    depthOfMembers (fieldMembers fields) ≤ nesting → FieldsOrdered fields →
    entries? (read? nesting true) (.object (fieldMembers fields)) = some fields
  | [] => fun _ _ _ => rfl
  | (name, ty) :: rest => by
      intro nesting within ⟨first, others⟩
      rw [fieldMembers, depthOfMembers, Nat.max_le] at within
      exact entries_cons (ty.read_to_json nesting true within.1 first)
        (read_field_members rest nesting within.2 others)

theorem read_to_json_all : (types : List Ty) → ∀ nesting,
    depthOfItems (toJsonAll types) ≤ nesting → AllOrdered types →
    list? (read? nesting true) (.array (toJsonAll types)) = some types
  | [] => fun _ _ _ => rfl
  | ty :: rest => by
      intro nesting within ⟨first, others⟩
      rw [toJsonAll, depthOfItems, Nat.max_le] at within
      exact list_cons (ty.read_to_json nesting true within.1 first)
        (read_to_json_all rest nesting within.2 others)

end

theorem load_to_json {ty : Ty} (within : ty.toJson.depth ≤ nestingLimit) (ordered : ty.Ordered) :
    Ty.load ty.toJson.render = .ok ty := by
  refine ty.to_json_plain.load ?_
  rw [ofJson?, if_pos (ty.to_json_plain.sound within)]
  exact ty.read_to_json nestingLimit false within ordered

theorem read_ordered {nesting : Nat} {nested : Bool} {json : Json} {ty : Ty}
    (taken : read? nesting nested json = some ty) : ty.Ordered := by
  induction nesting generalizing nested json ty with
  | zero => cases taken
  | succ deeper ih =>
      have each : ∀ inner found, read? deeper true inner = some found → found.Ordered :=
        fun _ _ => ih
      obtain ⟨⟨kind, content⟩, _, taken⟩ := Option.bind_eq_some_iff.mp taken
      cases kind with
      | boolean | number | string =>
          obtain ⟨_, _, rfl⟩ := Option.map_eq_some_iff.mp taken
          trivial
      | object =>
          obtain ⟨fields, _, taken⟩ := Option.bind_eq_some_iff.mp taken
          split at taken
          · obtain ⟨entries, read, taken⟩ := Option.bind_eq_some_iff.mp taken
            obtain ⟨labels, _, taken⟩ := Option.bind_eq_some_iff.mp taken
            obtain ⟨written, _, read⟩ := Option.bind_eq_some_iff.mp read
            cases taken
            refine ⟨NameMap.ordered_insert_all _ .nil, NameMap.ordered_insert_all _ .nil,
              (fields_ordered_iff _).mpr ?_⟩
            -- the entries of a built map are among those that were read, one level further in
            intro entry member
            have given := (NameMap.mem_insert_all member).resolve_right List.not_mem_nil
            exact entries_all each read entry given
          · cases taken
      | array =>
          obtain ⟨fields, _, taken⟩ := Option.bind_eq_some_iff.mp taken
          split at taken
          · obtain ⟨element, read, taken⟩ := Option.bind_eq_some_iff.mp taken
            obtain ⟨written, _, read⟩ := Option.bind_eq_some_iff.mp read
            cases taken
            exact each written element read
          · cases taken
      | function =>
          obtain ⟨fields, _, taken⟩ := Option.bind_eq_some_iff.mp taken
          split at taken
          · obtain ⟨args, read, taken⟩ := Option.bind_eq_some_iff.mp taken
            obtain ⟨ret, retRead, taken⟩ := Option.bind_eq_some_iff.mp taken
            obtain ⟨written, _, read⟩ := Option.bind_eq_some_iff.mp read
            cases taken
            have argsOrdered := (all_ordered_iff args).mpr (list_all each read)
            cases ret with
            | none => exact argsOrdered
            | some ret => exact ⟨argsOrdered, nullable_all each retRead ret rfl⟩
          · cases taken

theorem load_ordered {text : String} {ty : Ty} (loaded : Ty.load text = .ok ty) : ty.Ordered := by
  obtain ⟨json, taken⟩ := taken_of_load loaded
  unfold ofJson? at taken
  split at taken
  · exact read_ordered taken
  · cases taken

end TemplateScript.Ty
