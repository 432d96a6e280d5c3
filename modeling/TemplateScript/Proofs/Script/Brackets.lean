import TemplateScript.Proofs.Checked.Typing
import TemplateScript.Proofs.Script.Words
import TemplateScript.Script.Emit

/-!
Generated script is well bracketed.

Every expression and every statement closes the brackets and literals it opens, and no others. The
literals that a scanner finds are those of the texts that the template has: text between actions,
string constants, names of templates and labels that are no identifiers. Names of variables stand in
the script as they are, so these have to be plain.
-/
namespace TemplateScript

open Scanner

def memberLiterals (name : String) : List String :=
  if Identifier.isPlain name then [] else [name]

def Constant.Value.literals : Constant.Value → List String
  | .string text => [text]
  | .number _ | .bool _ => []

mutual

/-- The texts that the script of an expression has as literals, in order. -/
def Expr.literals : Expr → List String
  | .constant value _ => value.literals
  | .field subject name _ => subject.literals ++ memberLiterals name
  | .method subject name args _ =>
      subject.literals ++ memberLiterals name ++ Expr.literalsAll args
  | .slot _ _ | .context _ | .globals _ => []

def Expr.literalsAll : List Expr → List String
  | [] => []
  | first :: rest => first.literals ++ Expr.literalsAll rest

end

mutual

def Statement.literals : Statement → List String
  | .text content => if content.isEmpty then [] else [content]
  | .emit value | .declare _ value | .assign _ value => value.literals
  | .conditional test _ _ body _ otherwise _ =>
      test.literals ++ Statement.literalsAll body ++ Statement.literalsAll otherwise
  | .loop subject _ _ body _ otherwise _ =>
      subject.literals ++ Statement.literalsAll body ++ Statement.literalsAll otherwise
  | .include name context => name :: Expr.literalsAll context.toList

def Statement.literalsAll : List Statement → List String
  | [] => []
  | first :: rest => first.literals ++ Statement.literalsAll rest

end

/-- The first literal is the empty text that the rendered one starts from. -/
def CheckedTemplate.literals (checked : CheckedTemplate) : List String :=
  "" :: Statement.literalsAll checked.body

theorem member_nested (name : String) : Nested (memberAccess name) (memberLiterals name) := by
  unfold memberAccess memberLiterals
  split
  · next plain =>
      have dot : Reads [] "." [] [] := by decide
      exact dot.append (nested_inert (word_inert (plain_identifier_word plain)))
  · have opening : Reads [] "[" [']'] [] := by decide
    have closing : Reads [']'] "]" [] [] := by decide
    exact (opening.append ((Literal.script_nested name).within [']'])).code closing

theorem number_nested (value : Double) : Nested (Script.number value) [] := by
  have text := nested_inert (number_text_inert value)
  unfold Script.number
  split
  · have opening : Reads [] "(" [')'] [] := by decide
    have closing : Reads [')'] ")" [] [] := by decide
    exact (opening.append (text.within [')'])).code closing
  · exact text

theorem constant_nested (value : Constant.Value) :
    Nested (Script.constant value) value.literals := by
  cases value with
  | number value => exact number_nested value
  | string text => exact Literal.script_nested text
  | bool value =>
      cases value with
      | false => exact nested_inert (by decide)
      | true => exact nested_inert (by decide)

theorem exprs_eq_map (found : List Expr) : Script.exprs found = found.map Script.expr := by
  induction found with
  | nil => rfl
  | cons first rest ih => rw [Script.exprs, ih, List.map_cons]

theorem literals_all_eq_flat_map (found : List Expr) :
    Expr.literalsAll found = found.flatMap Expr.literals := by
  induction found with
  | nil => rfl
  | cons first rest ih => rw [Expr.literalsAll, ih, List.flatMap_cons]

theorem dot_nested : Nested "ctx" [] :=
  nested_inert (by decide)

theorem call_nested {subject : String} {name : String} {args : List Expr} {own : List String}
    (subjectNested : Nested subject own)
    (argsNested : ∀ arg ∈ args, Nested (Script.expr arg) arg.literals) :
    Nested (subject ++ memberAccess name ++ "(" ++ ",".intercalate (Script.exprs args) ++ ")")
      (own ++ memberLiterals name ++ Expr.literalsAll args) := by
  rw [exprs_eq_map, literals_all_eq_flat_map]
  have listed := nested_intercalate Script.expr Expr.literals argsNested
  have opening : Reads [] "(" [')'] [] := by decide
  have closing : Reads [')'] ")" [] [] := by decide
  have head := Nested.append subjectNested (member_nested name)
  exact ((Reads.code head opening).append (listed.within [')'])).code closing

theorem Expr.Typed.nested {scope : Scope} (plain : scope.Plain) {value : Expr}
    (typed : value.Typed isPlainVariable scope) : Nested (Script.expr value) value.literals := by
  induction typed with
  | constant value => exact constant_nested value
  | field _ _ _ ih => exact ih.append (member_nested _)
  | method _ _ _ ih argsIh => exact call_nested ih argsIh
  | call _ _ argsIh =>
      have table : Nested "__g" [] := nested_inert (by decide)
      exact call_nested table argsIh
  | slot named found => exact nested_inert (plain.lookup named found)
  | context => exact dot_nested

theorem listed_nested {names : List String} (inert : ∀ name ∈ names, isInert name = true) :
    Nested (Script.listed names) [] := by
  unfold Script.listed
  induction names with
  | nil => exact nested_inert (by decide)
  | cons name rest ih =>
      simp only [List.forall_mem_cons] at inert
      have comma : Reads [] "," [] [] := by decide
      have first := Reads.code comma (nested_inert inert.1)
      rw [List.map_cons, String.join_cons]
      exact Reads.code first (ih inert.2)

theorem separated_nested {texts : List String} (inert : ∀ text ∈ texts, Nested text []) :
    Nested (",".intercalate texts) [] := by
  have listed := nested_intercalate id (fun _ => []) inert
  have nothing : texts.flatMap (fun _ => ([] : List String)) = [] := by
    simp [List.flatMap_eq_nil_iff]
  rwa [List.map_id, nothing] at listed

theorem hoisting_nested {names : List String} (inert : ∀ name ∈ names, isInert name = true) :
    Nested (Script.hoisting names) [] := by
  unfold Script.hoisting
  split
  · exact nested_inert (by decide)
  · have keyword : Reads [] "var " [] [] := by decide
    have finish : Reads [] ";" [] [] := by decide
    have list := separated_nested fun name member => nested_inert (inert name member)
    exact (keyword.code list).code finish

theorem closure_nested {params args : List String} {frame : Frame} {body : String}
    {literals : List String} (paramsInert : ∀ name ∈ params, isInert name = true)
    (argsNested : ∀ arg ∈ args, Nested arg [])
    (hoistedInert : ∀ name ∈ frame.hoisted params, isInert name = true)
    (bodyNested : Nested body literals) :
    Nested (Script.closure params args frame body) literals := by
  have opening : Reads [] "(function(ctx" [')', ')'] [] := by decide
  have list := (listed_nested paramsInert).within [')', ')']
  have enter : Reads [')', ')'] ")\x7b" ['\x7d', ')'] [] := by decide
  have hoisted := (hoisting_nested hoistedInert).within ['\x7d', ')']
  have inner := bodyNested.within ['\x7d', ')']
  have leave : Reads ['\x7d', ')'] "\x7d)(" [')'] [] := by decide
  have called := (separated_nested argsNested).within [')']
  have finish : Reads [')'] ");" [] [] := by decide
  unfold Script.closure
  exact (((((opening.code list).code enter).code hoisted).append inner).code leave
    |>.code called).code finish

theorem text_nested (content : String) :
    Nested (Script.text content) (Statement.text content).literals := by
  unfold Script.text Statement.literals
  split
  · exact nested_inert (by decide)
  · have append : Reads [] "out+=" [] [] := by decide
    have finish : Reads [] ";" [] [] := by decide
    exact (append.append (Literal.script_nested content)).code finish

theorem emission_nested {value : Expr} (nested : Nested (Script.expr value) value.literals) :
    Nested (Script.emission value) value.literals := by
  unfold Script.emission
  split
  · have append : Reads [] "out+=" [] [] := by decide
    have finish : Reads [] ";" [] [] := by decide
    exact (append.append nested).code finish
  · have opening : Reads [] "out+=__rt.str(" [')'] [] := by decide
    have finish : Reads [')'] ");" [] [] := by decide
    exact (opening.append (nested.within [')'])).code finish

theorem assignment_nested {name : String} {value : Expr} (inert : isInert name = true)
    (nested : Nested (Script.expr value) value.literals) :
    Nested (Script.assignment name value) value.literals := by
  have equals : Reads [] "=" [] [] := by decide
  have finish : Reads [] ";" [] [] := by decide
  unfold Script.assignment
  exact ((Reads.code (nested_inert inert) equals).append nested).code finish

/-- An arm that is left out has no literals either. -/
theorem other_arm_nested {head otherwise : String} {hasElse : Bool} {literals : List String}
    (opening : Reads [] head ['\x7d'] []) (nested : Nested otherwise literals)
    (absent : hasElse = false → literals = []) :
    Nested (if hasElse then head ++ otherwise ++ "\x7d" else "") literals := by
  cases hasElse with
  | false =>
      have nothing : Nested "" [] := nested_inert (by decide)
      rw [absent rfl]
      exact nothing
  | true =>
      have closing : Reads ['\x7d'] "\x7d" [] [] := by decide
      exact (opening.append (nested.within ['\x7d'])).code closing

theorem conditional_nested {test : Expr} {hasElse : Bool} {body otherwise : String}
    {inner others : List String} (testNested : Nested (Script.expr test) test.literals)
    (bodyNested : Nested body inner) (otherNested : Nested otherwise others)
    (absent : hasElse = false → others = []) :
    Nested (Script.conditional test hasElse body otherwise)
      (test.literals ++ inner ++ others) := by
  have declared : Reads [] "var v=" [] [] := by decide
  have opening : Reads [] ";if(" [')'] [] := by decide
  have condition : Nested (Script.condition test) [] := by
    unfold Script.condition
    split
    · exact nested_inert (by decide)
    · exact nested_inert (by decide)
  have enter : Reads [')'] ")\x7b" ['\x7d'] [] := by decide
  have leave : Reads ['\x7d'] "\x7d" [] [] := by decide
  have other := other_arm_nested (by decide : Reads [] "else\x7b" ['\x7d'] []) otherNested absent
  have head := ((declared.append testNested).code opening).code (condition.within [')'])
  unfold Script.conditional
  exact (((head.code enter).append (bodyNested.within ['\x7d'])).code leave).append other

theorem loop_nested {subject : Expr} {hasElse : Bool} {body otherwise : String}
    {inner others : List String} (subjectNested : Nested (Script.expr subject) subject.literals)
    (bodyNested : Nested body inner) (otherNested : Nested otherwise others)
    (absent : hasElse = false → others = []) :
    Nested (Script.loop subject hasElse body otherwise)
      (subject.literals ++ inner ++ others) := by
  have declared : Reads [] "var it=" [] [] := by decide
  have flag : Reads [] (if hasElse then ",any=false" else "") [] [] := by
    cases hasElse <;> decide
  have enter : Reads [] ";for(var i=0;it&&i<it.length;i++)\x7b" ['\x7d'] [] := by decide
  have raised : Reads ['\x7d'] (if hasElse then "any=true;" else "") ['\x7d'] [] := by
    cases hasElse <;> decide
  have leave : Reads ['\x7d'] "\x7d" [] [] := by decide
  have other := other_arm_nested (by decide : Reads [] "if(!any)\x7b" ['\x7d'] []) otherNested
    absent
  have head := (((declared.append subjectNested).code flag).code enter).code raised
  unfold Script.loop
  exact ((head.append (bodyNested.within ['\x7d'])).code leave).append other

theorem inclusion_nested {name : String} {context : Option Expr}
    (nested : ∀ value ∈ context, Nested (Script.expr value) value.literals) :
    Nested (Script.inclusion name context) (Statement.include name context).literals := by
  have opening : Reads [] "out+=__rt.include(__tmpls," [')'] [] := by decide
  have label := (Literal.script_nested name).within [')']
  have comma : Reads [')'] "," [')'] [] := by decide
  have handed : Nested (Script.contextArg context) (Expr.literalsAll context.toList) := by
    cases context with
    | none => exact nested_inert (by decide)
    | some value => simpa [Script.contextArg, Expr.literalsAll] using nested value rfl
  have finish : Reads [')'] ");" [] [] := by decide
  unfold Script.inclusion Statement.literals
  exact (((opening.append label).code comma).append (handed.within [')'])).code finish

theorem test_args_nested (rebinds : Bool) (bound : Option String) :
    ∀ arg ∈ Script.testArgs rebinds bound, Nested arg [] := by
  have value : Nested "v" [] := nested_inert (by decide)
  cases rebinds with
  | false => cases bound <;> simp [Script.testArgs, value, dot_nested]
  | true => cases bound <;> simp [Script.testArgs, value]

theorem loop_args_nested (index value : Option String) :
    ∀ arg ∈ Script.loopArgs index value, Nested arg [] := by
  have element : Nested "it[i]" [] := by unfold Nested; decide
  have counter : Nested "i" [] := nested_inert (by decide)
  cases index with
  | none => cases value <;> simp [Script.loopArgs, element]
  | some name => cases value <;> simp [Script.loopArgs, element, counter]

/-- The closure of an arm, in the scope that the arm ends with. -/
theorem arm_nested {params args : List String} {last : Scope} {body : List Statement}
    (named : ∀ name ∈ params, isPlainVariable name = true)
    (argsNested : ∀ arg ∈ args, Nested arg [])
    (inner : last.Plain ∧ Nested (Script.statements body) (Statement.literalsAll body)) :
    Nested (Script.closure params args last.toFrame (Script.statements body))
      (Statement.literalsAll body) := by
  apply closure_nested _ argsNested (inner.1.hoisted params) inner.2
  exact fun name member => word_inert (plain_variable_word (named name member))

theorem other_closure_nested {last : Scope} {otherwise : List Statement}
    (inner : last.Plain ∧ Nested (Script.statements otherwise) (Statement.literalsAll otherwise)) :
    Nested (Script.closure [] ["ctx"] last.toFrame (Script.statements otherwise))
      (Statement.literalsAll otherwise) :=
  arm_nested (by simp) (by simpa using dot_nested) inner

theorem no_literals_of_no_else {otherwise : List Statement}
    (empty : (!otherwise.isEmpty) = false) : Statement.literalsAll otherwise = [] := by
  cases otherwise with
  | nil => rfl
  | cons => simp at empty

theorem statements_cons_nested {last : Scope} {first : Statement} {rest : List Statement}
    (head : Nested (Script.statement first) first.literals)
    (tail : last.Plain ∧ Nested (Script.statements rest) (Statement.literalsAll rest)) :
    last.Plain ∧
      Nested (Script.statements (first :: rest)) (Statement.literalsAll (first :: rest)) := by
  rw [Script.statements, Statement.literalsAll]
  exact ⟨tail.1, head.append tail.2⟩

/-- Statements that are typed in a plain scope are nested, and leave a plain scope behind. -/
theorem Statements.Typed.nested {scope last : Scope} {statements : List Statement}
    (typed : Statements.Typed isPlainVariable scope statements last) (plain : scope.Plain) :
    last.Plain ∧ Nested (Script.statements statements) (Statement.literalsAll statements) := by
  -- a closure hoists the variables of the scope its arm ends with, so that one has to be plain too
  induction typed with
  | nil => exact ⟨plain, nested_inert (by decide)⟩
  | text _ ih =>
      apply statements_cons_nested _ (ih plain)
      rw [Script.statement]
      exact text_nested _
  | emit value _ ih =>
      apply statements_cons_nested _ (ih plain)
      rw [Script.statement, Statement.literals]
      exact emission_nested (value.nested plain)
  | declare value named _ ih =>
      apply statements_cons_nested _ (ih (plain.declare_local named _))
      rw [Script.statement, Statement.literals]
      exact assignment_nested (plain.declared named _) (value.nested plain)
  | assign value named found _ ih =>
      apply statements_cons_nested _ (ih plain)
      rw [Script.statement, Statement.literals]
      exact assignment_nested (plain.lookup named found) (value.nested plain)
  | @conditional _ _ _ _ _ _ bound _ _ _ test named _ _ _ bodyIh otherIh ih =>
      have params : ∀ name ∈ bound.toList, isPlainVariable name = true :=
        fun name member => named name (Option.mem_toList.mp member)
      have body := bodyIh (plain.arm (.conditional _ _ _ _) params)
      have other := otherIh (plain.arm (.child _) (by simp))
      apply statements_cons_nested _ (ih plain)
      rw [Script.statement, Statement.literals]
      exact conditional_nested (test.nested plain)
        (arm_nested params (test_args_nested _ _) body) (other_closure_nested other)
        no_literals_of_no_else
  | @loop _ _ _ _ _ _ index value _ _ _ subject _ indexNamed valueNamed _ _ _ bodyIh otherIh ih =>
      have params : ∀ name ∈ index.toList ++ value.toList, isPlainVariable name = true := by
        intro name member
        rcases List.mem_append.mp member with first | second
        · exact indexNamed name (Option.mem_toList.mp first)
        · exact valueNamed name (Option.mem_toList.mp second)
      have body := bodyIh (plain.arm (.loop _ _ _ _) params)
      have other := otherIh (plain.arm (.child _) (by simp))
      apply statements_cons_nested _ (ih plain)
      rw [Script.statement, Statement.literals]
      exact loop_nested (subject.nested plain)
        (arm_nested params (loop_args_nested _ _) body) (other_closure_nested other)
        no_literals_of_no_else
  | «include» context _ ih =>
      apply statements_cons_nested _ (ih plain)
      rw [Script.statement]
      exact inclusion_nested fun value member => (context value member).nested plain

/-- What stands between the braces of the function of a template. -/
def Script.inside (checked : CheckedTemplate) : String :=
  "var $=ctx,out=\"\"" ++ listed (checked.frame.hoisted []) ++ ";" ++ statements checked.body ++
    "return out;"

theorem template_eq (checked : CheckedTemplate) :
    Script.template checked = "function(ctx)\x7b" ++ Script.inside checked ++ "\x7d" := by
  have opening : "function(ctx)\x7bvar $=ctx,out=\"\"" =
      "function(ctx)\x7b" ++ "var $=ctx,out=\"\"" := by decide
  have closing : "return out;\x7d" = "return out;" ++ "\x7d" := by decide
  unfold Script.template Script.inside
  rw [opening, closing]
  simp only [String.append_assoc]

theorem inside_nested {known : KnownTemplates} {context : Ty}
    {functions : List (String × FunctionType)} {tree : Tree} {checked : CheckedTemplate}
    (named : tree.named isPlainVariable = true)
    (accepted : tree.check known (Scope.base context functions) = .ok checked) :
    Nested (Script.inside checked) checked.literals := by
  obtain ⟨last, typed, frame⟩ := check_tree_typed named accepted
  obtain ⟨plain, body⟩ := typed.nested (Scope.Plain.base context functions)
  have opening : Reads [] "var $=ctx,out=\"\"" [] [""] := by decide
  have locals : ∀ name ∈ checked.frame.hoisted [], isInert name = true := by
    rw [frame]
    exact plain.hoisted []
  have semicolon : Reads [] ";" [] [] := by decide
  have finish : Reads [] "return out;" [] [] := by decide
  unfold Script.inside
  exact (((opening.code (listed_nested locals)).code semicolon).append body).code finish

/-- A scan finds every bracket and every literal closed, and its literals are the texts of the
template. The brace that the function opens is open at every place before the last character. -/
theorem script_well_bracketed (known : KnownTemplates) (context : Ty)
    (functions : List (String × FunctionType)) (tree : Tree) (checked : CheckedTemplate)
    (named : tree.named isPlainVariable = true)
    (accepted : tree.check known (Scope.base context functions) = .ok checked) :
    run start (Script.template checked).toList =
        some ⟨[], .code, checked.literals.map Literal.escaped⟩ ∧
      ∃ inside, (Script.template checked).toList =
          "function(ctx)\x7b".toList ++ inside ++ ['\x7d'] ∧
        ∀ front, front <+: inside →
          ∃ state, run start ("function(ctx)\x7b".toList ++ front) = some state ∧
            state.opened.getLast? = some '\x7d' := by
  have inner := inside_nested named accepted
  have opening : Reads [] "function(ctx)\x7b" ['\x7d'] [] := by decide
  have closing : Reads ['\x7d'] "\x7d" [] [] := by decide
  constructor
  · rw [template_eq]
    exact (opening.append (inner.within ['\x7d'])).code closing
  · refine ⟨(Script.inside checked).toList, by simp [template_eq], ?_⟩
    intro front leads
    -- the inside scans from no open bracket, so from an open brace it never gets at that brace
    obtain ⟨here, reached⟩ := run_prefix leads inner
    refine ⟨here.within ['\x7d'] [], ?_, by simp [State.within]⟩
    have opened : run start "function(ctx)\x7b".toList = some ⟨['\x7d'], .code, []⟩ := opening
    rw [run_append, opened]
    exact run_within reached ['\x7d'] []

def hostileTree : Tree :=
  ⟨"page", "", ⟨0, [.text 0 "\");\x7d",
    .branch .with 0 ⟨0, false, [⟨0, ["$x"]⟩], [⟨0, [.field 0 ["a\"]"]]⟩]⟩
      ⟨0, [.action 0 ⟨0, false, [⟨0, ["$y"]⟩], [⟨0, [.string 0 "\\"]⟩]⟩,
        .action 0 ⟨0, false, [], [⟨0, [.var ⟨0, ["$x"]⟩]⟩]⟩]⟩
      (some ⟨0, [.template 0 "\x7d)(" none]⟩)]⟩⟩

def hostileContext : Ty := .object [("a\"]", .string)] []

theorem hostile_well_bracketed :
    ∃ checked, hostileTree.check none (Scope.base hostileContext []) = .ok checked ∧
      run start (Script.template checked).toList =
        some ⟨[], .code, ["", "\");\x7d", "a\"]", "\\", "\x7d)("].map Literal.escaped⟩ := by
  have accepted : hostileTree.check none (Scope.base hostileContext []) = .ok _ := rfl
  have bracketed := script_well_bracketed none hostileContext [] hostileTree _ (by decide) accepted
  exact ⟨_, accepted, bracketed.1⟩

end TemplateScript
