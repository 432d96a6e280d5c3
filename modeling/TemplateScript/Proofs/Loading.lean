import TemplateScript.Options
import TemplateScript.Proofs.Shape.Document
import TemplateScript.Proofs.Template.Document
import TemplateScript.Proofs.Ty.Document

/-!
Loading undoes writing.

Trees, shapes, options and types are loaded from the texts of their documents as they were, as long
as the document nests no deeper than the limit. Options come last, since their signatures are read
like shapes and their table of functions is a map like those of types.
-/
namespace TemplateScript

open Json

theorem PreludeMode.to_json_plain (mode : PreludeMode) : mode.toJson.Plain := by
  cases mode with
  | inline => exact ⟨trivial, trivial⟩
  | linked binding => exact ⟨trivial, trivial, trivial⟩

theorem PreludeMode.within_to_json {mode : PreludeMode} {nesting : Nat}
    (within : mode.toJson.depth ≤ nesting) :
    PreludeMode.within? nesting mode.toJson = some mode := by
  rw [PreludeMode.within?, if_pos (mode.to_json_plain.sound within)]
  cases mode with
  | inline => simp [PreludeMode.toJson, PreludeMode.kinds]
  | linked binding =>
      simp [PreludeMode.toJson, PreludeMode.kinds, List.lookup_cons, required?, text?]

section Signatures

variable {funcs : NameMap Signature} {nesting : Nat}

theorem signature_members_plain (funcs : NameMap Signature) :
    MembersPlain (signatureMembers funcs) := by
  induction funcs with
  | nil => trivial
  | cons entry rest ih => exact ⟨entry.2.members_plain, ih⟩

theorem entries_signature_members (within : depthOfMembers (signatureMembers funcs) ≤ nesting) :
    entries? (Signature.within? nesting) (.object (signatureMembers funcs)) = some funcs := by
  induction funcs with
  | nil => rfl
  | cons entry rest ih =>
      simp only [signatureMembers, List.map_cons, depthOfMembers, Nat.max_le] at within
      exact entries_cons (Signature.within_to_json within.1) (ih within.2)

theorem signatures_written (within : (Json.object (signatureMembers funcs)).depth ≤ nesting)
    (ordered : NameMap.Ordered funcs) :
    signatures? nesting (.object (signatureMembers funcs)) = some ⟨funcs, ordered⟩ := by
  obtain ⟨deeper, rfl, inside⟩ := object_within within
  simp [signatures?, entries_signature_members inside, NameMap.of_list_ordered ordered]

end Signatures

namespace Options

theorem to_json_plain (options : Options) : options.toJson.Plain :=
  ⟨signature_members_plain options.funcs, of_option_plain options.entry,
    options.prelude.to_json_plain, trivial⟩

theorem read_to_json {options : Options} (within : options.toJson.depth ≤ nestingLimit) :
    Options.ofJson? options.toJson = some options := by
  obtain ⟨funcs, ordered, entry, mode⟩ := options
  have inside := Nat.le_sub_one_of_lt within
  simp only [depthOfMembers, Nat.max_le] at inside
  have funcsRead := signatures_written inside.1 ordered
  have modeRead := PreludeMode.within_to_json inside.2.2.1
  simp [Options.ofJson?, Options.toJson, defaulted?, funcsRead, nullable_text, modeRead]

theorem load_to_json {options : Options} (within : options.toJson.depth ≤ nestingLimit) :
    Options.load options.toJson.render = .ok options :=
  options.to_json_plain.load (read_to_json within)

end Options

/-- Every document that nests within the limit is loaded as the value it was written from. The
positions of a tree have to be in its text, and the maps of a type are ordered, as insertion keeps
them; every type that is loaded is of that kind. -/
theorem loading_undoes_writing :
    (∀ tree : Tree, tree.toJson.depth ≤ nestingLimit → tree.checkPositions = .ok () →
      Tree.load tree.toJson.render = .ok tree) ∧
    (∀ shape : Shape, shape.toJson.depth ≤ nestingLimit →
      Shape.load shape.toJson.render = .ok shape) ∧
    (∀ options : Options, options.toJson.depth ≤ nestingLimit →
      Options.load options.toJson.render = .ok options) ∧
    (∀ ty : Ty, ty.toJson.depth ≤ nestingLimit → ty.Ordered →
      Ty.load ty.toJson.render = .ok ty) ∧
    ∀ (text : String) (ty : Ty), Ty.load text = .ok ty → ty.Ordered :=
  ⟨fun _ within inText => Tree.load_to_json within inText,
    fun _ within => Shape.load_to_json within,
    fun _ within => Options.load_to_json within,
    fun _ within ordered => Ty.load_to_json within ordered,
    fun _ _ loaded => Ty.load_ordered loaded⟩

def titlesTree : Tree where
  name := "titles"
  text := "\x7b\x7brange .Titles\x7d\x7d\x7b\x7b. | upper\x7d\x7d\x7b\x7bend\x7d\x7d"
  root := ⟨0, [.branch .range 8 ⟨8, false, [], [⟨8, [.field 8 ["Titles"]]⟩]⟩
    ⟨17, [.action 19 ⟨19, false, [], [⟨19, [.dot 19]⟩, ⟨23, [.identifier 23 "upper"]⟩]⟩]⟩ none]⟩

def titlesShape : Shape :=
  .record (some "Page") [⟨"Titles", .sequence .string, some "titles,omitempty"⟩]
    [⟨"Count", ⟨true, [.any], [.int]⟩⟩]

def titlesOptions : Options :=
  ((Options.default.withFunc "upper" ⟨false, [.string], [.string]⟩).withEntry "titles").linked "rt"

def titlesTy : Ty :=
  .object
    (NameMap.insert "Titles" (.array .string)
      (NameMap.insert "Count" (.function [] (some .number)) []))
    (NameMap.insert "Titles" "titles" [])

theorem titles_loaded :
    Tree.load titlesTree.toJson.render = .ok titlesTree ∧
    Shape.load titlesShape.toJson.render = .ok titlesShape ∧
    Options.load titlesOptions.toJson.render = .ok titlesOptions ∧
    Ty.load titlesTy.toJson.render = .ok titlesTy := by
  obtain ⟨trees, shapes, allOptions, types, _⟩ := loading_undoes_writing
  have orderedTy : titlesTy.Ordered :=
    ⟨NameMap.ordered_insert _ _ (NameMap.ordered_insert _ _ .nil), NameMap.ordered_insert _ _ .nil,
      Ty.fields_ordered_insert _ trivial (Ty.fields_ordered_insert _ ⟨trivial, trivial⟩ trivial)⟩
  exact ⟨trees titlesTree (by decide) (by decide), shapes titlesShape (by decide),
    allOptions titlesOptions (by decide), types titlesTy (by decide) orderedTy⟩

end TemplateScript
