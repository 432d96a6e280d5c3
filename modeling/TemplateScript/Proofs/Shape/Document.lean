import TemplateScript.Proofs.Json.Documents
import TemplateScript.Shape.Document

/-!
Shapes and signatures read back from their documents.
-/
namespace TemplateScript

open Json

mutual

theorem Shape.to_json_plain : (shape : Shape) → shape.toJson.Plain
  | .bool | .int | .uint | .float | .string | .any => ⟨trivial, trivial⟩
  | .pointer target => ⟨trivial, target.to_json_plain, trivial⟩
  | .sequence element => ⟨trivial, element.to_json_plain, trivial⟩
  | .record name fields methods =>
      ⟨trivial, of_option_plain name, FieldShape.to_json_all_plain fields,
        MethodShape.to_json_all_plain methods, trivial⟩
  | .function signature => ⟨trivial, signature.members_plain⟩
  | .map key value => ⟨trivial, key.to_json_plain, value.to_json_plain, trivial⟩

theorem Shape.to_json_all_plain : (shapes : List Shape) → ItemsPlain (Shape.toJsonAll shapes)
  | [] => trivial
  | shape :: rest => ⟨shape.to_json_plain, Shape.to_json_all_plain rest⟩

theorem FieldShape.to_json_all_plain : (fields : List FieldShape) →
    ItemsPlain (FieldShape.toJsonAll fields)
  | [] => trivial
  | ⟨_, shape, rename⟩ :: rest =>
      ⟨⟨trivial, shape.to_json_plain, of_option_plain rename, trivial⟩,
        FieldShape.to_json_all_plain rest⟩

theorem MethodShape.to_json_all_plain : (methods : List MethodShape) →
    ItemsPlain (MethodShape.toJsonAll methods)
  | [] => trivial
  | ⟨_, signature⟩ :: rest =>
      ⟨⟨trivial, signature.members_plain, trivial⟩, MethodShape.to_json_all_plain rest⟩

theorem Signature.members_plain : (signature : Signature) → MembersPlain signature.members
  | ⟨_, params, results⟩ =>
      ⟨trivial, Shape.to_json_all_plain params, Shape.to_json_all_plain results, trivial⟩

end

mutual

theorem Shape.read_to_json : (shape : Shape) → ∀ nesting nested, shape.toJson.depth ≤ nesting →
    Shape.read? nesting nested shape.toJson = some shape
  | .bool | .int | .uint | .float | .string | .any => by
      intro nesting nested within
      obtain ⟨deeper, rfl, _⟩ := object_within within
      simp [Shape.toJson, Shape.read?, Shape.kinds, List.lookup_cons]
  | .pointer target => by
      intro nesting nested within
      obtain ⟨deeper, rfl, inside⟩ := object_within within
      simp only [depthOfMembers] at inside
      have read := target.read_to_json deeper true (by omega)
      simp [Shape.toJson, Shape.read?, Shape.kinds, List.lookup_cons, required?, read]
  | .sequence element => by
      intro nesting nested within
      obtain ⟨deeper, rfl, inside⟩ := object_within within
      simp only [depthOfMembers] at inside
      have read := element.read_to_json deeper true (by omega)
      simp [Shape.toJson, Shape.read?, Shape.kinds, List.lookup_cons, required?, read]
  | .record name fields methods => by
      intro nesting nested within
      obtain ⟨deeper, rfl, inside⟩ := object_within within
      simp only [depthOfMembers, depth] at inside
      have fieldsRead := FieldShape.read_to_json_all fields deeper (by omega)
      have methodsRead := MethodShape.read_to_json_all methods deeper (by omega)
      simp [Shape.toJson, Shape.read?, Shape.kinds, List.lookup_cons, nullable_text, defaulted?,
        fieldsRead, methodsRead]
  | .function signature => by
      intro nesting nested within
      obtain ⟨deeper, rfl, inside⟩ := object_within within
      have read := signature.read_members deeper (by simpa [depthOfMembers, depth] using inside)
      obtain ⟨receiver, params, results⟩ := signature
      simp only [Signature.members] at read
      simp [Shape.toJson, Shape.read?, Shape.kinds, List.lookup_cons, Signature.members, read]
  | .map key value => by
      intro nesting nested within
      obtain ⟨deeper, rfl, inside⟩ := object_within within
      simp only [depthOfMembers] at inside
      have keyRead := key.read_to_json deeper true (by omega)
      have valueRead := value.read_to_json deeper true (by omega)
      simp [Shape.toJson, Shape.read?, Shape.kinds, List.lookup_cons, required?, keyRead, valueRead]

theorem Shape.read_to_json_all : (shapes : List Shape) → ∀ nesting,
    depthOfItems (Shape.toJsonAll shapes) ≤ nesting →
    list? (Shape.read? nesting true) (.array (Shape.toJsonAll shapes)) = some shapes
  | [] => fun _ _ => rfl
  | shape :: rest => by
      intro nesting within
      rw [Shape.toJsonAll, depthOfItems, Nat.max_le] at within
      exact list_cons (shape.read_to_json nesting true within.1)
        (Shape.read_to_json_all rest nesting within.2)

theorem FieldShape.read_to_json_all : (fields : List FieldShape) → ∀ nesting,
    depthOfItems (FieldShape.toJsonAll fields) ≤ nesting →
    list? (FieldShape.read? (Shape.read? nesting true)) (.array (FieldShape.toJsonAll fields)) =
      some fields
  | [] => fun _ _ => rfl
  | ⟨name, shape, rename⟩ :: rest => by
      intro nesting within
      simp only [FieldShape.toJsonAll, depthOfItems, depth, depthOfMembers] at within
      have read := shape.read_to_json nesting true (by omega)
      refine list_cons ?_ (FieldShape.read_to_json_all rest nesting (by omega))
      simp [FieldShape.read?, required?, text?, read, nullable_text]

theorem MethodShape.read_to_json_all : (methods : List MethodShape) → ∀ nesting,
    depthOfItems (MethodShape.toJsonAll methods) ≤ nesting →
    list? (MethodShape.read? (Shape.read? nesting true)) (.array (MethodShape.toJsonAll methods)) =
      some methods
  | [] => fun _ _ => rfl
  | ⟨name, signature⟩ :: rest => by
      intro nesting within
      simp only [MethodShape.toJsonAll, depthOfItems, depth, depthOfMembers] at within
      have read := signature.read_members nesting (by omega)
      refine list_cons ?_ (MethodShape.read_to_json_all rest nesting (by omega))
      simp [MethodShape.read?, required?, text?, read]

theorem Signature.read_members : (signature : Signature) → ∀ nesting,
    depthOfMembers signature.members ≤ nesting →
    Signature.read? (Shape.read? nesting true) (.object signature.members) = some signature
  | ⟨receiver, params, results⟩ => by
      intro nesting within
      simp only [Signature.members, depthOfMembers, depth] at within
      have paramsRead := Shape.read_to_json_all params nesting (by omega)
      have resultsRead := Shape.read_to_json_all results nesting (by omega)
      simp [Signature.members, Signature.read?, defaulted?, bool?, paramsRead, resultsRead]

end

theorem Shape.within_to_json {shape : Shape} {nesting : Nat}
    (within : shape.toJson.depth ≤ nesting) :
    Shape.within? nesting shape.toJson = some shape := by
  rw [Shape.within?, if_pos (shape.to_json_plain.sound within)]
  exact shape.read_to_json nesting false within

theorem Shape.within_to_json_all {shapes : List Shape} {nesting : Nat}
    (within : depthOfItems (Shape.toJsonAll shapes) ≤ nesting) :
    list? (Shape.within? nesting) (.array (Shape.toJsonAll shapes)) = some shapes := by
  induction shapes with
  | nil => rfl
  | cons shape rest ih =>
      rw [Shape.toJsonAll, depthOfItems, Nat.max_le] at within
      exact list_cons (Shape.within_to_json within.1) (ih within.2)

theorem Signature.within_to_json {signature : Signature} {nesting : Nat}
    (within : signature.toJson.depth ≤ nesting) :
    Signature.within? nesting signature.toJson = some signature := by
  obtain ⟨receiver, params, results⟩ := signature
  simp only [Signature.toJson, Signature.members, depth, depthOfMembers] at within
  have paramsInside : depthOfItems (Shape.toJsonAll params) ≤ nesting - 2 := by omega
  have resultsInside : depthOfItems (Shape.toJsonAll results) ≤ nesting - 2 := by omega
  have paramsRead := Shape.within_to_json_all paramsInside
  have resultsRead := Shape.within_to_json_all resultsInside
  simp [Signature.within?, Signature.toJson, Signature.members, Signature.read?, defaulted?, bool?,
    paramsRead, resultsRead]

theorem Shape.load_to_json {shape : Shape} (within : shape.toJson.depth ≤ nestingLimit) :
    Shape.load shape.toJson.render = .ok shape :=
  shape.to_json_plain.load (Shape.within_to_json within)

end TemplateScript
