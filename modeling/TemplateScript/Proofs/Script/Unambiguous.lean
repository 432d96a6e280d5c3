import TemplateScript.Proofs.Checked.Sources
import TemplateScript.Proofs.Checked.Statics
import TemplateScript.Proofs.Number.Finite
import TemplateScript.Proofs.Script.Terms

/-!
The text of an expression determines the expression.

Wherever two expressions of checked templates have the same text, they are the same but for the
types that they record. Members are told apart as identifiers and as literals, variables start with
a dollar sign and the words of the script do not, and numbers are finite, so that each has a text of
its own. The checker reads no member off a constant, which is where the text would not be enough.
-/
namespace TemplateScript

mutual

/-- An expression with one and the same type everywhere. -/
def Expr.untyped : Expr → Expr
  | .constant value _ => .constant value .boolean
  | .field subject name _ => .field subject.untyped name .boolean
  | .method subject name args _ => .method subject.untyped name (Expr.untypedAll args) .boolean
  | .slot name _ => .slot name .boolean
  | .context _ => .context .boolean
  | .globals _ => .globals .boolean

def Expr.untypedAll : List Expr → List Expr
  | [] => []
  | first :: rest => first.untyped :: Expr.untypedAll rest

end

/-- The expression that is written as a single word. -/
def Expr.ofWord (word : String) : Expr :=
  if word = Script.constant (.bool true) then .constant (.bool true) .boolean
  else if word = Script.constant (.bool false) then .constant (.bool false) .boolean
  else if word = "ctx" then .context .boolean
  else if word = "__g" then .globals .boolean
  else .slot word .boolean

/-- An expression stands in a checked template, alone or as a part. -/
def CheckedTemplate.Has (checked : CheckedTemplate) (part : Expr) : Prop :=
  ∃ found ∈ checked.exprs, part ∈ found.parts

namespace Expr.Readable

theorem parts {e : Expr} (readable : e.Readable) : ∀ part ∈ e.parts, part.Readable := by
  induction readable with
  | number finite => simpa [Expr.parts] using .number finite
  | bool => simpa [Expr.parts] using .bool
  | string => simpa [Expr.parts] using .string
  | field named subject ih =>
      exact List.forall_mem_cons.mpr ⟨.field named subject, ih⟩
  | method named subject args ih argsIh =>
      refine List.forall_mem_cons.mpr ⟨.method named subject args, ?_⟩
      refine List.forall_mem_append.mpr ⟨ih, fun part member => ?_⟩
      obtain ⟨arg, present, inside⟩ := parts_all_mem.mp member
      exact argsIh arg present part inside
  | slot word dollar => simpa [Expr.parts] using .slot word dollar
  | context => simpa [Expr.parts] using .context
  | globals => simpa [Expr.parts] using .globals

theorem untyped_args {left right : List Expr}
    (each : ∀ arg ∈ left, ∀ {other : Expr}, other.Readable → arg.term = other.term →
      arg.untyped = other.untyped)
    (readable : ∀ arg ∈ right, arg.Readable) (same : Expr.terms left = Expr.terms right) :
    Expr.untypedAll left = Expr.untypedAll right := by
  induction left generalizing right with
  | nil =>
      cases right with
      | nil => rfl
      | cons _ _ => cases same
  | cons first rest ih =>
      cases right with
      | nil => cases same
      | cons other others =>
          obtain ⟨head, tail⟩ := List.cons.inj same
          rw [List.forall_mem_cons] at each readable
          rw [Expr.untypedAll, Expr.untypedAll, each.1 readable.1 head,
            ih each.2 readable.2 tail]

theorem untyped_word {e : Expr} (readable : e.Readable) {word : List Char}
    (spelled : e.term = .word word) : e.untyped = Expr.ofWord (String.ofList word) := by
  cases readable with
  | @bool value =>
      obtain rfl := Script.Term.word.inj spelled
      cases value <;> rfl
  | @slot name _ word dollar =>
      obtain rfl := Script.Term.word.inj spelled
      -- no word of the script is the name of a variable
      have apart {other : String} (plain : startsWithDollar other = false) : name ≠ other := by
        rintro rfl
        rw [plain] at dollar
        cases dollar
      rw [String.ofList_toList, Expr.untyped, Expr.ofWord, if_neg (apart (by decide)),
        if_neg (apart (by decide)), if_neg (apart (by decide)), if_neg (apart (by decide))]
  | context =>
      obtain rfl := Script.Term.word.inj spelled
      rfl
  | globals =>
      obtain rfl := Script.Term.word.inj spelled
      rfl
  | _ => cases spelled

theorem untyped_same_word {left right : Expr} {word : List Char} (leftReadable : left.Readable)
    (rightReadable : right.Readable) (leftSpelled : left.term = .word word)
    (same : left.term = right.term) : left.untyped = right.untyped :=
  (leftReadable.untyped_word leftSpelled).trans
    (rightReadable.untyped_word (same.symm.trans leftSpelled)).symm

/-- Only types are lost in a term. -/
theorem untyped_unique {left right : Expr} (leftReadable : left.Readable)
    (rightReadable : right.Readable) (same : left.term = right.term) :
    left.untyped = right.untyped := by
  induction leftReadable generalizing right with
  | number finite =>
      cases rightReadable with
      | number other =>
          have text := String.toList_injective (Script.Term.number.inj same)
          rw [Double.text_injective finite other text]
          rfl
      | _ => cases same
  | string =>
      cases rightReadable with
      | string => cases same; rfl
      | _ => cases same
  | field _ _ ih =>
      cases rightReadable with
      | field _ subject =>
          obtain ⟨subjects, rfl⟩ := Script.Term.member.inj same
          rw [Expr.untyped, Expr.untyped, ih subject subjects]
      | _ => cases same
  | method _ _ _ ih argsIh =>
      cases rightReadable with
      | method _ subject args =>
          obtain ⟨subjects, rfl, terms⟩ := Script.Term.call.inj same
          rw [Expr.untyped, Expr.untyped, ih subject subjects, untyped_args argsIh args terms]
      | _ => cases same
  | bool => exact untyped_same_word .bool rightReadable rfl same
  | slot word dollar => exact untyped_same_word (.slot word dollar) rightReadable rfl same
  | context => exact untyped_same_word .context rightReadable rfl same
  | globals => exact untyped_same_word .globals rightReadable rfl same

end Expr.Readable

/-- A variable is a word with a dollar sign in front, renamed or not. -/
theorem Scope.Reached.slot_readable {scope : Scope} (reached : scope.Reached) {var name : String}
    {ty : Ty} (plain : isPlainVariable var = true)
    (found : Scope.lookup var scope.levels = some (name, ty)) : (Expr.slot name ty).Readable := by
  have written := plain_variable_written plain
  have word := plain_variable_word plain
  rcases reached.lookup found with rfl | ⟨depth, rfl⟩
  · exact .slot word (variable_starts_with_dollar written)
  · exact .slot (shadow_name_word word depth) (Scope.shadow_name_starts_with_dollar written depth)

/-- Only objects have members, and no constant is one. -/
theorem Expr.Typed.member_subject {names : String → Bool} {scope : Scope} {subject : Expr}
    (typed : subject.Typed names scope) {ident name : String} {ty : Ty}
    (named : subject.ty.fieldNamed ident = .ok (name, ty)) : subject.isConstant = false := by
  cases typed with
  | constant value => cases value <;> cases named
  | _ => rfl

theorem readable_composed {scope : Scope} (reached : scope.Reached) :
    Composed isPlainVariable scope
      fun found => found.Typed isPlainVariable scope ∧ found.Readable where
  number read := ⟨.constant _, .number (Constant.read_finite read)⟩
  bool _ := ⟨.constant _, .bool⟩
  string _ := ⟨.constant _, .string⟩
  context := ⟨.context, .context⟩
  slot plain entry := ⟨.slot plain entry, reached.slot_readable plain entry⟩
  member := by
    intro subject found ident args subjectHolds argsHold read
    obtain ⟨subjectTyped, subjectReadable⟩ := subjectHolds
    have typed := read_member_typed subjectTyped (fun arg member => (argsHold arg member).1) read
    refine ⟨typed, ?_⟩
    obtain ⟨name, ty, named, ⟨params, ret, rfl, rfl⟩ | ⟨_, _, rfl⟩⟩ := read_member_ok read
    · exact .method (subjectTyped.member_subject named) subjectReadable
        fun arg member => (argsHold arg member).2
    · exact .field (subjectTyped.member_subject named) subjectReadable
  call := by
    intro ident args found argsHold called
    have typed := call_function_typed (fun arg member => (argsHold arg member).1) called
    refine ⟨typed, ?_⟩
    obtain ⟨_, _, _, _, rfl⟩ := call_function_ok called
    exact .method rfl .globals fun arg member => (argsHold arg member).2

theorem checked_readable {known : KnownTemplates} {root : Scope} {tree : Tree}
    {checked : CheckedTemplate} (reached : root.Reached)
    (named : tree.named isPlainVariable = true) (accepted : tree.check known root = .ok checked)
    {part : Expr} (has : checked.Has part) : part.Readable := by
  obtain ⟨found, member, inside⟩ := has
  obtain ⟨scope, pipe, scopeReached, pipeNamed, valued⟩ :=
    check_tree_sources reached named accepted found member
  exact ((readable_composed scopeReached).pipe pipe pipeNamed valued).2.parts part inside

/-- Two expressions of checked templates that have the same text differ in their types only. -/
theorem expression_text_unambiguous {known known' : KnownTemplates} {root root' : Scope}
    {tree tree' : Tree} {checked checked' : CheckedTemplate} (reached : root.Reached)
    (reached' : root'.Reached) (named : tree.named isPlainVariable = true)
    (named' : tree'.named isPlainVariable = true) (accepted : tree.check known root = .ok checked)
    (accepted' : tree'.check known' root' = .ok checked') {left right : Expr}
    (leftHas : checked.Has left) (rightHas : checked'.Has right)
    (same : Script.expr left = Script.expr right) : left.untyped = right.untyped := by
  have leftReadable := checked_readable reached named accepted leftHas
  have rightReadable := checked_readable reached' named' accepted' rightHas
  exact leftReadable.untyped_unique rightReadable (leftReadable.term_unique rightReadable same)

def printedTree (field : String) : Tree :=
  ⟨"printed", "", ⟨0, [.action 0 ⟨0, false, [],
    [⟨0, [.identifier 0 "printf", .string 0 "%v", .number 0 "-1", .field 0 [field]]⟩]⟩]⟩⟩

def printedData (field : String) (ty : Ty) : Ty :=
  .object [(field, ty)] [(field, "the key")]

def printedCall (field : String) (ty : Ty) : Expr :=
  .method (.globals (Scope.base (printedData field ty) []).globals) "printf"
    [.ofConstant (.string "%v"), .ofConstant (.number (Double.ofInt (-1))),
      .field (.context (printedData field ty)) "the key" ty] .string

def printedTemplate (field : String) (ty : Ty) : CheckedTemplate :=
  ⟨"printed", [.emit (printedCall field ty)],
    (Scope.base (printedData field ty) []).child.toFrame⟩

theorem printed_calls_alike :
    (printedTree "Key").check none (Scope.base (printedData "Key" .string) []) =
      .ok (printedTemplate "Key" .string) ∧
    (printedTree "No").check none (Scope.base (printedData "No" .number) []) =
      .ok (printedTemplate "No" .number) ∧
    Script.expr (printedCall "Key" .string) = "__g.printf(\"%v\",(-1),ctx[\"the key\"])" ∧
    (printedCall "Key" .string).untyped = (printedCall "No" .number).untyped := by
  have first : (printedTree "Key").check none (Scope.base (printedData "Key" .string) []) =
      .ok (printedTemplate "Key" .string) := rfl
  have second : (printedTree "No").check none (Scope.base (printedData "No" .number) []) =
      .ok (printedTemplate "No" .number) := rfl
  have has (field : String) (ty : Ty) : (printedTemplate field ty).Has (printedCall field ty) :=
    ⟨_, List.mem_cons_self, List.mem_cons_self⟩
  have text : Script.expr (printedCall "Key" .string) =
      "__g.printf(\"%v\",(-1),ctx[\"the key\"])" := by decide +kernel
  exact ⟨first, second, text, expression_text_unambiguous (.base _ _) (.base _ _) (by decide)
    (by decide) first second (has "Key" .string) (has "No" .number) (by decide +kernel)⟩

end TemplateScript
