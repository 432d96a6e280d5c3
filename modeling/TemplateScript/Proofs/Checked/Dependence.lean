import TemplateScript.Proofs.Checked.Typing
import TemplateScript.Proofs.Outcome
import TemplateScript.Script.Emit

/-!
What the script of a template depends on.

Every call in a checked template carries the type of the whole table of functions, and functions
share one map with the variables. Nevertheless the script depends on nothing but the functions that
the tree names. Two scopes that differ in their outermost level, and there only in functions that
the tree does not name, let the checker go through the same steps: the results differ in nothing but
the types of the tables, and these are not written.
-/
namespace TemplateScript

mutual

def Arg.identifiers : Arg → List String
  | .identifier _ ident => [ident]
  | .pipe inner => inner.identifiers
  | .number _ _ | .string _ _ | .bool _ _ | .dot _ | .field _ _ | .var _ => []

def Arg.identifiersAll : List Arg → List String
  | [] => []
  | arg :: rest => arg.identifiers ++ Arg.identifiersAll rest

def Command.identifiers : Command → List String
  | ⟨_, args⟩ => Arg.identifiersAll args

def Command.identifiersAll : List Command → List String
  | [] => []
  | command :: rest => command.identifiers ++ Command.identifiersAll rest

def Pipe.identifiers : Pipe → List String
  | ⟨_, _, _, commands⟩ => Command.identifiersAll commands

end

mutual

def Node.identifiers : Node → List String
  | .text _ _ | .comment _ _ | .template _ _ none => []
  | .action _ pipe | .template _ _ (some pipe) => pipe.identifiers
  | .branch _ _ pipe body none => pipe.identifiers ++ body.identifiers
  | .branch _ _ pipe body (some otherwise) =>
      pipe.identifiers ++ body.identifiers ++ otherwise.identifiers

def Node.identifiersAll : List Node → List String
  | [] => []
  | node :: rest => node.identifiers ++ Node.identifiersAll rest

def Block.identifiers : Block → List String
  | ⟨_, nodes⟩ => Node.identifiersAll nodes

end

def Tree.identifiers (tree : Tree) : List String :=
  tree.root.identifiers

mutual

def Expr.forgetTable : Expr → Expr
  | .constant value ty => .constant value ty
  | .field subject name ty => .field subject.forgetTable name ty
  | .method (.globals _) name args ty =>
      .method (.globals (.object [] [])) name (Expr.forgetTables args) ty
  | .method subject name args ty => .method subject.forgetTable name (Expr.forgetTables args) ty
  | .slot name ty => .slot name ty
  | .context ty => .context ty
  | .globals ty => .globals ty

def Expr.forgetTables : List Expr → List Expr
  | [] => []
  | first :: rest => first.forgetTable :: Expr.forgetTables rest

end

mutual

def Statement.forgetTable : Statement → Statement
  | .text content => .text content
  | .emit value => .emit value.forgetTable
  | .declare name value => .declare name value.forgetTable
  | .assign name value => .assign name value.forgetTable
  | .conditional test rebinds bound body frame otherwise otherFrame =>
      .conditional test.forgetTable rebinds bound (Statement.forgetTables body) frame
        (Statement.forgetTables otherwise) otherFrame
  | .loop subject index value body frame otherwise otherFrame =>
      .loop subject.forgetTable index value (Statement.forgetTables body) frame
        (Statement.forgetTables otherwise) otherFrame
  | .include name context => .include name (context.map Expr.forgetTable)

def Statement.forgetTables : List Statement → List Statement
  | [] => []
  | first :: rest => first.forgetTable :: Statement.forgetTables rest

end

@[simp] theorem ty_forget_table (found : Expr) : found.forgetTable.ty = found.ty := by
  cases found with
  | method subject name args ty => cases subject <;> simp [Expr.forgetTable, Expr.ty]
  | _ => simp [Expr.forgetTable, Expr.ty]

theorem forget_table_method_of_ne {subject : Expr} (apart : ∀ ty, subject ≠ .globals ty)
    (name : String) (args : List Expr) (ret : Ty) :
    (Expr.method subject name args ret).forgetTable =
      .method subject.forgetTable name (Expr.forgetTables args) ret := by
  cases subject with
  | globals ty => exact absurd rfl (apart ty)
  | _ => simp [Expr.forgetTable]

mutual

theorem script_expr_forget_table : (found : Expr) →
    Script.expr found.forgetTable = Script.expr found
  | .constant value ty => rfl
  | .slot name ty => rfl
  | .context ty => rfl
  | .globals ty => rfl
  | .field subject name ty => by
      simp only [Expr.forgetTable, Script.expr, script_expr_forget_table subject]
  -- a call forgets by its subject, so every kind of subject is a case of its own
  | .method (.globals table) name args ty => by
      simp only [Expr.forgetTable, Script.expr, script_exprs_forget_tables args]
  | .method (.constant value own) name args ty => by
      simp only [Expr.forgetTable, Script.expr, script_exprs_forget_tables args]
  | .method (.slot var own) name args ty => by
      simp only [Expr.forgetTable, Script.expr, script_exprs_forget_tables args]
  | .method (.context own) name args ty => by
      simp only [Expr.forgetTable, Script.expr, script_exprs_forget_tables args]
  | .method (.field subject inner own) name args ty => by
      have head := script_expr_forget_table (.field subject inner own)
      rw [forget_table_method_of_ne (by simp)]
      simp only [Script.expr, head, script_exprs_forget_tables args]
  | .method (.method subject inner others own) name args ty => by
      have head := script_expr_forget_table (.method subject inner others own)
      rw [forget_table_method_of_ne (by simp)]
      simp only [Script.expr, head, script_exprs_forget_tables args]

theorem script_exprs_forget_tables : (found : List Expr) →
    Script.exprs (Expr.forgetTables found) = Script.exprs found
  | [] => rfl
  | first :: rest => by
      simp [Expr.forgetTables, Script.exprs, script_expr_forget_table first,
        script_exprs_forget_tables rest]

end

theorem is_empty_forget_tables (found : List Statement) :
    (Statement.forgetTables found).isEmpty = found.isEmpty := by
  cases found <;> rfl

theorem condition_forget_table (test : Expr) :
    Script.condition test.forgetTable = Script.condition test := by
  unfold Script.condition
  rw [ty_forget_table]

theorem script_assignment_forget_table (name : String) (value : Expr) :
    Script.assignment name value.forgetTable = Script.assignment name value := by
  unfold Script.assignment
  rw [script_expr_forget_table]

mutual

theorem script_statement_forget_table : (found : Statement) →
    Script.statement found.forgetTable = Script.statement found
  | .text content => by rw [Statement.forgetTable]
  | .emit value => by
      rw [Statement.forgetTable, Script.statement, Script.statement]
      unfold Script.emission
      rw [ty_forget_table, script_expr_forget_table]
  | .declare name value => by
      rw [Statement.forgetTable, Script.statement, Script.statement,
        script_assignment_forget_table]
  | .assign name value => by
      rw [Statement.forgetTable, Script.statement, Script.statement,
        script_assignment_forget_table]
  | .include name none => by rw [Statement.forgetTable, Option.map_none]
  | .include name (some value) => by
      have context : Script.contextArg (some value.forgetTable) = Script.contextArg (some value) :=
        script_expr_forget_table value
      rw [Statement.forgetTable, Option.map_some, Script.statement, Script.statement]
      unfold Script.inclusion
      rw [context]
  | .conditional test rebinds bound body frame otherwise otherFrame => by
      rw [Statement.forgetTable, Script.statement, Script.statement, is_empty_forget_tables,
        script_statements_forget_tables body, script_statements_forget_tables otherwise]
      unfold Script.conditional
      rw [script_expr_forget_table, condition_forget_table]
  | .loop subject index value body frame otherwise otherFrame => by
      rw [Statement.forgetTable, Script.statement, Script.statement, is_empty_forget_tables,
        script_statements_forget_tables body, script_statements_forget_tables otherwise]
      unfold Script.loop
      rw [script_expr_forget_table]

theorem script_statements_forget_tables : (found : List Statement) →
    Script.statements (Statement.forgetTables found) = Script.statements found
  | [] => rfl
  | first :: rest => by
      simp only [Statement.forgetTables, Script.statements, script_statement_forget_table first,
        script_statements_forget_tables rest]

end

theorem forget_tables_append (left right : List Statement) :
    Statement.forgetTables (left ++ right) =
      Statement.forgetTables left ++ Statement.forgetTables right := by
  induction left with
  | nil => rfl
  | cons first rest ih => simp [Statement.forgetTables, ih]

/-- Two expressions that differ at most in the tables in front of their calls. -/
def Expr.SameCode (left right : Expr) : Prop :=
  left.forgetTable = right.forgetTable

namespace Expr.SameCode

theorem refl (found : Expr) : found.SameCode found := rfl

theorem ty {left right : Expr} (same : left.SameCode right) : left.ty = right.ty := by
  rw [← ty_forget_table left, ← ty_forget_table right, same]

theorem field {left right : Expr} (same : left.SameCode right) (name : String) (ty : Ty) :
    (Expr.field left name ty).SameCode (.field right name ty) := by
  unfold SameCode at same ⊢
  simp [Expr.forgetTable, same]

theorem call {args others : List Expr} (same : forgetTables args = forgetTables others)
    (table other : Ty) (name : String) (ret : Ty) :
    (Expr.method (.globals table) name args ret).SameCode
      (.method (.globals other) name others ret) := by
  simp [SameCode, Expr.forgetTable, same]

theorem globals {left : Expr} {table : Ty} (same : left.forgetTable = .globals table) :
    left = .globals table := by
  cases left with
  | globals ty => simpa [Expr.forgetTable] using same
  | method subject name args ty => cases subject <;> simp [Expr.forgetTable] at same
  | _ => simp [Expr.forgetTable] at same

theorem method {left right : Expr} {args others : List Expr} (same : left.SameCode right)
    (sameArgs : forgetTables args = forgetTables others) (name : String) (ret : Ty) :
    (Expr.method left name args ret).SameCode (.method right name others ret) := by
  by_cases table : ∃ ty, left = .globals ty
  · obtain ⟨ty, rfl⟩ := table
    have both : right = .globals ty := globals same.symm
    subst both
    exact call sameArgs ty ty name ret
  · have leftApart : ∀ ty, left ≠ .globals ty := fun ty own => table ⟨ty, own⟩
    have rightApart : ∀ ty, right ≠ .globals ty := by
      intro ty own
      subst own
      exact leftApart ty (globals same)
    unfold SameCode at same ⊢
    rw [forget_table_method_of_ne leftApart, forget_table_method_of_ne rightApart, same, sameArgs]

end Expr.SameCode

/-- Two scopes that differ in nothing but their outermost level, and there in no variable. -/
structure Scope.Over (left right : Level) (scope other : Scope) : Prop where
  level : scope.level = other.level
  outer : ∃ outer, scope.outer = outer ++ [left] ∧ other.outer = outer ++ [right]
  vars : ∀ name, startsWithDollar name = true → left.find? name = right.find? name

/-- These functions mean the same in two levels. -/
def Level.SameNamed (left right : Level) (idents : List String) : Prop :=
  ∀ ident ∈ idents, left.find? (functionKey ident) = right.find? (functionKey ident)

theorem Level.SameNamed.append_iff {left right : Level} {first second : List String} :
    left.SameNamed right (first ++ second) ↔
      left.SameNamed right first ∧ left.SameNamed right second := by
  simp [Level.SameNamed, or_imp, forall_and]

theorem lookup_outermost (name : String) (inner : List Level) (base : Level) :
    Scope.lookup name (inner ++ [base]) = (Scope.lookup name inner).or (base.find? name) := by
  rw [Scope.lookup, List.findSome?_append]
  cases found : base.find? name <;> simp [Scope.lookup, found]

namespace Scope.Over

variable {left right : Level} {scope other : Scope}

theorem context (paired : Scope.Over left right scope other) : scope.context = other.context :=
  congrArg Level.context paired.level

theorem child (paired : Scope.Over left right scope other) :
    Scope.Over left right scope.child other.child := by
  obtain ⟨outer, scopeOuter, otherOuter⟩ := paired.outer
  refine ⟨congrArg Level.empty paired.context, ⟨scope.level :: outer, ?_, ?_⟩, paired.vars⟩
  · simp [Scope.child, Scope.levels, scopeOuter]
  · simp [Scope.child, Scope.levels, otherOuter, paired.level]

theorem set_context (paired : Scope.Over left right scope other) (context : Ty) :
    Scope.Over left right (scope.setContext context) (other.setContext context) :=
  ⟨congrArg (fun level => { level with context := context }) paired.level, paired.outer,
    paired.vars⟩

theorem declare_if (paired : Scope.Over left right scope other) (name : Option String) (ty : Ty) :
    Scope.Over left right (declareIf name ty scope) (declareIf name ty other) := by
  cases name with
  | none => exact paired
  | some own => exact ⟨congrArg (Level.bind own ty) paired.level, paired.outer, paired.vars⟩

/-- A name that means the same in both outermost levels means the same everywhere. -/
theorem lookup_outer (paired : Scope.Over left right scope other) {name : String}
    (same : left.find? name = right.find? name) :
    Scope.lookup name scope.outer = Scope.lookup name other.outer := by
  obtain ⟨outer, scopeOuter, otherOuter⟩ := paired.outer
  rw [scopeOuter, otherOuter, lookup_outermost, lookup_outermost, same]

theorem lookup (paired : Scope.Over left right scope other) {name : String}
    (same : left.find? name = right.find? name) :
    Scope.lookup name scope.levels = Scope.lookup name other.levels := by
  have further := paired.lookup_outer same
  simp only [Scope.lookup, Scope.levels, List.findSome?_cons] at further ⊢
  rw [paired.level, further]

theorem declare_local (paired : Scope.Over left right scope other) {name : String}
    (dollar : startsWithDollar name = true) (ty : Ty) :
    (scope.declareLocal name ty).1 = (other.declareLocal name ty).1 ∧
      Scope.Over left right (scope.declareLocal name ty).2 (other.declareLocal name ty).2 := by
  obtain ⟨outer, scopeOuter, otherOuter⟩ := paired.outer
  have hidden : scope.hides name = other.hides name := by
    simp [Scope.hides, paired.level, paired.lookup_outer (paired.vars name dollar)]
  have depth : scope.depth = other.depth := by
    simp [Scope.depth, scopeOuter, otherOuter]
  refine ⟨?_, ?_, ⟨outer, scopeOuter, otherOuter⟩, paired.vars⟩
  · simp only [Scope.declareLocal, hidden, depth, paired.level]
  · simp only [Scope.declareLocal, hidden, depth, paired.level]

end Scope.Over

/-- The runs succeed together with results in the relation; the causes of failures do not matter. -/
abbrev Together {ε α β : Type} (results : α → β → Prop) : Except ε α → Except ε β → Prop :=
  SameOutcome (fun _ _ => True) results

section

variable {left right : Level} {scope other : Scope}

theorem located_together {α β : Type} {results : α → β → Prop} {first : Except TypeError α}
    {second : Except TypeError β} {pos : Offset} {render : Unit → String}
    (together : Together results first second) :
    Together results (located pos render first) (located pos render second) :=
  together.located fun _ _ _ => trivial

theorem field_named_together (paired : Scope.Over left right scope other) {name : String}
    (dollar : startsWithDollar name = true) :
    Together Eq (scope.fieldNamed name) (other.fieldNamed name) := by
  have same := paired.lookup (paired.vars name dollar)
  unfold Scope.fieldNamed
  rw [same]
  cases Scope.lookup name other.levels with
  | none => exact .error trivial
  | some found => exact .ok rfl

theorem invoke_together {subject partner : Expr} {args others : List Expr} {name : String} {ty : Ty}
    (same : ∀ ret, (Expr.method subject name args ret).SameCode (.method partner name others ret)) :
    Together Expr.SameCode (invoke subject name ty args) (invoke partner name ty others) := by
  unfold invoke
  split
  · exact .ok (same _)
  · exact .error trivial
  · exact .error trivial

theorem call_function_together (paired : Scope.Over left right scope other) {ident : String}
    (same : left.find? (functionKey ident) = right.find? (functionKey ident))
    {args others : List Expr} (sameArgs : Expr.forgetTables args = Expr.forgetTables others) :
    Together Expr.SameCode (callFunction scope ident args) (callFunction other ident others) := by
  have found : Together Eq (scope.functionNamed ident) (other.functionNamed ident) := by
    unfold Scope.functionNamed
    rw [paired.lookup same]
    cases Scope.lookup (functionKey ident) other.levels with
    | none => exact .error trivial
    | some found => exact .ok rfl
  apply found.bind
  intro value partner own
  subst own
  exact invoke_together fun ret => .call sameArgs _ _ _ ret

theorem forget_tables_appended (args others : List Expr) :
    Expr.forgetTables (args ++ others) = Expr.forgetTables args ++ Expr.forgetTables others := by
  induction args with
  | nil => rfl
  | cons first rest ih => simp [Expr.forgetTables, ih]

theorem is_empty_of_same {args others : List Expr}
    (same : Expr.forgetTables args = Expr.forgetTables others) : args.isEmpty = others.isEmpty := by
  cases args <;> cases others <;> simp_all [Expr.forgetTables]

theorem read_member_together {subject partner : Expr} (same : subject.SameCode partner)
    {args others : List Expr} (sameArgs : Expr.forgetTables args = Expr.forgetTables others)
    (ident : String) :
    Together Expr.SameCode (readMember subject ident args) (readMember partner ident others) := by
  unfold readMember
  rw [same.ty, is_empty_of_same sameArgs]
  apply (SameOutcome.refl (fun _ => trivial) (partner.ty.fieldNamed ident)).bind
  intro value own equal
  subst equal
  obtain ⟨name, ty⟩ := value
  cases ty with
  | function params ret => exact invoke_together fun ret => same.method sameArgs name ret
  | _ =>
      dsimp only
      split
      · exact .ok (same.field name _)
      · exact .error trivial

theorem read_chain_together {subject partner : Expr} (same : subject.SameCode partner)
    {args others : List Expr} (sameArgs : Expr.forgetTables args = Expr.forgetTables others)
    (idents : List String) :
    Together Expr.SameCode (readChain subject args idents) (readChain partner others idents) := by
  induction idents generalizing subject partner with
  | nil => exact .ok same
  | cons ident rest ih =>
      cases rest with
      | nil => exact read_member_together same sameArgs ident
      | cons next rest =>
          apply (read_member_together same rfl ident).bind
          intro member partner together
          exact ih together

theorem read_variable_together (paired : Scope.Over left right scope other) {reading : Variable}
    (named : reading.named startsWithDollar = true) {args others : List Expr}
    (sameArgs : Expr.forgetTables args = Expr.forgetTables others) :
    Together Expr.SameCode (readVariable scope reading.ident args)
      (readVariable other reading.ident others) := by
  obtain ⟨pos, ident⟩ := reading
  cases ident with
  | nil => exact .error trivial
  | cons first rest =>
      apply (field_named_together paired named).bind
      intro value partner own
      subst own
      rw [is_empty_of_same sameArgs]
      dsimp only
      split
      · exact .error trivial
      · exact read_chain_together (.refl _) sameArgs rest

theorem context_same (paired : Scope.Over left right scope other) :
    (Expr.context scope.context).SameCode (.context other.context) := by
  rw [paired.context]
  exact .refl _

theorem constant_together {literal : String} :
    Together Expr.SameCode (numberConstant literal) (numberConstant literal) := by
  cases numberConstant literal with
  | ok found => exact .ok (.refl found)
  | error cause => exact .error trivial

theorem check_head_together (paired : Scope.Over left right scope other) {head : Arg}
    (named : head.named startsWithDollar = true)
    (functions : left.SameNamed right head.identifiers) {args others : List Expr}
    (sameArgs : Expr.forgetTables args = Expr.forgetTables others)
    {value partner : Unit → Except CheckError Expr}
    (values : Together Expr.SameCode (value ()) (partner ())) :
    Together Expr.SameCode (checkHead scope head args value)
      (checkHead other head others partner) := by
  have empty := is_empty_of_same sameArgs
  cases head with
  | identifier pos ident =>
      have here := functions ident (by simp [Arg.identifiers])
      simp only [checkHead]
      exact located_together (call_function_together paired here sameArgs)
  | field pos ident =>
      simp only [checkHead]
      exact located_together (read_chain_together (context_same paired) sameArgs ident)
  | var reading =>
      simp only [checkHead]
      exact located_together (read_variable_together paired named sameArgs)
  | _ =>
      apply values.bind
      intro found partner same
      rw [empty]
      split
      · exact .ok same
      · exact .error trivial

mutual

theorem check_arg_together (paired : Scope.Over left right scope other) :
    (arg : Arg) → arg.named startsWithDollar = true →
    left.SameNamed right arg.identifiers →
    Together Expr.SameCode (checkArg scope arg) (checkArg other arg)
  | .number pos literal, _, _ => by
      simp only [checkArg]
      exact located_together constant_together
  | .string pos content, _, _ => .ok (.refl _)
  | .bool pos value, _, _ => .ok (.refl _)
  | .dot pos, _, _ => .ok (context_same paired)
  | .field pos ident, _, _ => by
      simp only [checkArg]
      exact located_together (read_chain_together (context_same paired) rfl ident)
  | .identifier pos ident, _, functions => by
      have here := functions ident (by simp [Arg.identifiers])
      simp only [checkArg]
      exact located_together (call_function_together paired here rfl)
  | .var reading, named, _ => by
      simp only [checkArg]
      exact located_together (read_variable_together paired named rfl)
  | .pipe inner, named, functions => by
      simp only [checkArg]
      split
      · exact check_pipe_together paired inner named functions
      · exact .error trivial

theorem check_args_together (paired : Scope.Over left right scope other) :
    (args : List Arg) → Arg.namedAll startsWithDollar args = true →
    left.SameNamed right (Arg.identifiersAll args) →
    Together (fun found partner => Expr.forgetTables found = Expr.forgetTables partner)
      (checkArgs scope args) (checkArgs other args)
  | [], _, _ => .ok rfl
  | arg :: rest, named, functions => by
      simp only [Arg.namedAll, Bool.and_eq_true] at named
      obtain ⟨here, further⟩ := Level.SameNamed.append_iff.mp functions
      simp only [checkArgs]
      apply (check_arg_together paired arg named.1 here).bind
      intro first partner same
      apply (check_args_together paired rest named.2 further).bind
      intro others partners sameOthers
      unfold Expr.SameCode at same
      exact .ok (by simp [Expr.forgetTables, same, sameOthers])

theorem check_commands_together (paired : Scope.Over left right scope other) {whole : Pipe} :
    (commands : List Command) →
    {piped partner : Option Expr} →
    Command.namedAll startsWithDollar commands = true →
    left.SameNamed right (Command.identifiersAll commands) →
    Expr.forgetTables piped.toList = Expr.forgetTables partner.toList →
    Together
      (fun found partner => Expr.forgetTables found.toList = Expr.forgetTables partner.toList)
      (checkCommands scope whole piped commands) (checkCommands other whole partner commands)
  | [], piped, partner, _, _, same => .ok same
  | ⟨pos, []⟩ :: rest, piped, partner, _, _, same => .error trivial
  | ⟨pos, head :: args⟩ :: rest, piped, partner, named, functions, same => by
      simp only [Command.namedAll, Command.named, Arg.namedAll, Bool.and_eq_true] at named
      obtain ⟨here, further⟩ := Level.SameNamed.append_iff.mp functions
      obtain ⟨inHead, inArgs⟩ := Level.SameNamed.append_iff.mp here
      have stage : Together Expr.SameCode
          (checkCommand scope whole piped ⟨pos, head :: args⟩)
          (checkCommand other whole partner ⟨pos, head :: args⟩) := by
        simp only [checkCommand]
        apply (check_args_together paired args named.1.2 inArgs).bind
        intro found partners sameArgs
        refine check_head_together paired named.1.1 inHead ?_
          (check_arg_together paired head named.1.1 inHead)
        rw [forget_tables_appended, forget_tables_appended, sameArgs, same]
      simp only [checkCommands]
      apply stage.bind
      intro value partner sameValue
      unfold Expr.SameCode at sameValue
      exact check_commands_together paired rest named.2 further
        (by simp [Expr.forgetTables, sameValue])

theorem check_pipe_together (paired : Scope.Over left right scope other) :
    (pipe : Pipe) → pipe.named startsWithDollar = true →
    left.SameNamed right pipe.identifiers →
    Together Expr.SameCode (checkPipe scope pipe) (checkPipe other pipe)
  | ⟨pos, assigns, targets, commands⟩, named, functions => by
      simp only [Pipe.named, Bool.and_eq_true] at named
      simp only [checkPipe]
      apply (check_commands_together paired commands named.2 functions rfl).bind
      intro found partner same
      cases found with
      | none =>
          cases partner with
          | none => exact .error trivial
          | some other => cases same
      | some value =>
          cases partner with
          | none => cases same
          | some other => exact .ok (List.cons.inj same).1

end

def SameStatements (left right : Level) (found partner : List Statement × Scope) : Prop :=
  Statement.forgetTables found.1 = Statement.forgetTables partner.1 ∧
    Scope.Over left right found.2 partner.2

theorem check_action_together (paired : Scope.Over left right scope other) {pos : Offset}
    {pipe : Pipe} (named : pipe.named startsWithDollar = true)
    (functions : left.SameNamed right pipe.identifiers) :
    Together (fun found partner => found.1.forgetTable = partner.1.forgetTable ∧
        Scope.Over left right found.2 partner.2)
      (checkAction scope pos pipe) (checkAction other pos pipe) := by
  have pipes := check_pipe_together paired pipe named functions
  simp only [checkAction]
  cases single : singleTarget (fun _ => (Node.action pos pipe).render) pipe with
  | error cause => exact .error trivial
  | ok target =>
      have targets := single_target_ok single
      simp only [ok_bind]
      cases target with
      | none =>
          apply pipes.bind
          intro value partner same
          unfold Expr.SameCode at same
          exact .ok ⟨by simp [Statement.forgetTable, same], paired⟩
      | some name =>
          have dollar := single_targets_named named targets name (by simp)
          apply pipes.bind
          intro value partner same
          have code := same
          unfold Expr.SameCode at code
          -- the types of both values agree, so both runs take the same side
          rw [same.ty]
          split
          · apply (located_together (field_named_together paired dollar)).bind
            intro found equal own
            subst own
            split
            · exact .ok ⟨by simp [Statement.forgetTable, code], paired⟩
            · exact .error trivial
          · obtain ⟨generated, declared⟩ := paired.declare_local dollar partner.ty
            exact .ok ⟨by simp [Statement.forgetTable, code, generated], declared⟩

inductive BranchHead.SameCode : BranchHead → BranchHead → Prop
  | conditional {test partner : Expr} (same : test.SameCode partner) (rebinds : Bool)
      (bound : Option String) :
      SameCode (.conditional test rebinds bound) (.conditional partner rebinds bound)
  | loop {subject partner : Expr} (same : subject.SameCode partner) (index value : Option String) :
      SameCode (.loop subject index value) (.loop partner index value)

theorem BranchHead.SameCode.close {head partner : BranchHead} (same : head.SameCode partner)
    {inner inner' other other' : List Statement}
    (body : Statement.forgetTables inner = Statement.forgetTables inner')
    (otherwise : Statement.forgetTables other = Statement.forgetTables other')
    (frame otherFrame : Frame) :
    (head.close inner frame other otherFrame).forgetTable =
      (partner.close inner' frame other' otherFrame).forgetTable := by
  cases same with
  | conditional same | loop same =>
      unfold Expr.SameCode at same
      simp [BranchHead.close, Statement.forgetTable, same, body, otherwise]

theorem open_conditional_together (paired : Scope.Over left right scope other) {pipe : Pipe}
    (named : pipe.named startsWithDollar = true)
    (functions : left.SameNamed right pipe.identifiers) (rebinds : Bool) (render : Unit → String) :
    Together (fun found partner => found.1.SameCode partner.1 ∧
        Scope.Over left right found.2 partner.2)
      (openConditional scope rebinds pipe render) (openConditional other rebinds pipe render) := by
  simp only [openConditional]
  apply (SameOutcome.refl (fun _ => trivial) (singleTarget render pipe)).bind
  intro bound equal own
  subst own
  apply (check_pipe_together paired.child pipe named functions).bind
  intro test partner same
  rw [same.ty]
  have declared := paired.child.declare_if bound partner.ty
  cases rebinds with
  | false => exact .ok ⟨.conditional same _ _, declared⟩
  | true => exact .ok ⟨.conditional same _ _, declared.set_context partner.ty⟩

theorem open_loop_together (paired : Scope.Over left right scope other) {pipe : Pipe}
    (named : pipe.named startsWithDollar = true)
    (functions : left.SameNamed right pipe.identifiers) (pos : Offset) (render : Unit → String) :
    Together (fun found partner => found.1.SameCode partner.1 ∧
        Scope.Over left right found.2 partner.2)
      (openLoop scope pos pipe render) (openLoop other pos pipe render) := by
  simp only [openLoop]
  apply (SameOutcome.refl (fun _ => trivial) (targetNames render pipe.targets)).bind
  intro names equal own
  subst own
  apply (SameOutcome.refl (fun _ => trivial) (loopNames render pos names)).bind
  intro chosen equal own
  subst own
  apply (check_pipe_together paired.child pipe named functions).bind
  intro subject partner same
  rw [same.ty]
  apply (SameOutcome.refl (fun _ => trivial) (located pos render partner.ty.iterate)).bind
  intro element equal own
  subst own
  have entered := paired.child.set_context element
  exact .ok ⟨.loop same _ _, (entered.declare_if chosen.1 .number).declare_if chosen.2 element⟩

theorem open_branch_together (paired : Scope.Over left right scope other) {pipe : Pipe}
    (named : pipe.named startsWithDollar = true)
    (functions : left.SameNamed right pipe.identifiers) (kind : BranchKind) (pos : Offset)
    (render : Unit → String) :
    Together (fun found partner => found.1.SameCode partner.1 ∧
        Scope.Over left right found.2 partner.2)
      (openBranch scope kind pos pipe render) (openBranch other kind pos pipe render) := by
  unfold openBranch
  split
  · exact .error trivial
  · cases kind with
    | «if» => exact open_conditional_together paired named functions false render
    | «with» => exact open_conditional_together paired named functions true render
    | range => exact open_loop_together paired named functions pos render

theorem check_template_together (paired : Scope.Over left right scope other) {pipe : Option Pipe}
    (named : ∀ context ∈ pipe, context.named startsWithDollar = true)
    (functions : ∀ context ∈ pipe, left.SameNamed right context.identifiers)
    (known : KnownTemplates) (pos : Offset) (name : String) :
    Together (fun found partner => found.forgetTable = partner.forgetTable)
      (checkTemplate known scope pos name pipe) (checkTemplate known other pos name pipe) := by
  unfold checkTemplate
  split
  · cases pipe with
    | none => exact .ok rfl
    | some context =>
        apply (check_pipe_together paired context (named context rfl) (functions context rfl)).map
        intro value partner same
        unfold Expr.SameCode at same
        simp [Statement.forgetTable, same]
  · exact .error trivial

mutual

theorem check_node_together {known : KnownTemplates} : (node : Node) → {scope other : Scope} →
    Scope.Over left right scope other → node.named startsWithDollar = true →
    left.SameNamed right node.identifiers →
    Together (SameStatements left right) (checkNode known scope node) (checkNode known other node)
  | .text pos content, scope, other, paired, _, _ => .ok ⟨rfl, paired⟩
  | .comment pos content, scope, other, paired, _, _ => .ok ⟨rfl, paired⟩
  | .action pos pipe, scope, other, paired, named, functions => by
      simp only [checkNode]
      apply (check_action_together paired named functions).bind
      intro found partner same
      exact .ok ⟨by simp [Statement.forgetTables, same.1], same.2⟩
  | .template pos name none, scope, other, paired, _, _ => by
      simp only [checkNode]
      apply (check_template_together paired (by simp) (by simp) known pos name).bind
      intro found partner same
      exact .ok ⟨by simp [Statement.forgetTables, same], paired⟩
  | .template pos name (some pipe), scope, other, paired, named, functions => by
      simp only [Node.named] at named
      simp only [Node.identifiers] at functions
      simp only [checkNode]
      apply (check_template_together paired (by simpa using named) (by simpa using functions) known
        pos name).bind
      intro found partner same
      exact .ok ⟨by simp [Statement.forgetTables, same], paired⟩
  | .branch kind pos pipe body none, scope, other, paired, named, functions => by
      simp only [Node.named, Bool.and_eq_true] at named
      obtain ⟨inPipe, inBody⟩ := Level.SameNamed.append_iff.mp functions
      simp only [checkNode]
      apply (open_branch_together paired named.1 inPipe kind pos _).bind
      intro opened partner sameHead
      apply (check_block_together body sameHead.2 named.2 inBody).bind
      intro inner partner sameInner
      have frames : scope.child.toFrame = other.child.toFrame :=
        congrArg Level.toFrame paired.child.level
      refine .ok ⟨?_, paired⟩
      rw [sameInner.2, frames]
      exact congrArg (· :: []) (sameHead.1.close sameInner.1 rfl _ _)
  | .branch kind pos pipe body (some otherwise), scope, other, paired, named, functions => by
      simp only [Node.named, Bool.and_eq_true] at named
      obtain ⟨inFront, inOther⟩ := Level.SameNamed.append_iff.mp functions
      obtain ⟨inPipe, inBody⟩ := Level.SameNamed.append_iff.mp inFront
      simp only [checkNode]
      apply (open_branch_together paired named.1.1 inPipe kind pos _).bind
      intro opened partner sameHead
      apply (check_block_together body sameHead.2 named.1.2 inBody).bind
      intro inner partner sameInner
      apply (check_block_together otherwise paired.child named.2 inOther).bind
      intro arm partner sameArm
      refine .ok ⟨?_, paired⟩
      rw [sameInner.2, sameArm.2]
      exact congrArg (· :: []) (sameHead.1.close sameInner.1 sameArm.1 _ _)

theorem check_nodes_together {known : KnownTemplates} : (nodes : List Node) →
    {scope other : Scope} → Scope.Over left right scope other →
    Node.namedAll startsWithDollar nodes = true →
    left.SameNamed right (Node.identifiersAll nodes) →
    Together (SameStatements left right) (checkNodes known scope nodes)
      (checkNodes known other nodes)
  | [], scope, other, paired, _, _ => .ok ⟨rfl, paired⟩
  | node :: rest, scope, other, paired, named, functions => by
      simp only [Node.namedAll, Bool.and_eq_true] at named
      obtain ⟨here, further⟩ := Level.SameNamed.append_iff.mp functions
      simp only [checkNodes]
      apply (check_node_together node paired named.1 here).bind
      intro first partner same
      apply (check_nodes_together rest same.2 named.2 further).bind
      intro more partners sameMore
      refine .ok ⟨?_, sameMore.2⟩
      simp [forget_tables_append, same.1, sameMore.1]

theorem check_block_together {known : KnownTemplates} : (block : Block) → {scope other : Scope} →
    Scope.Over left right scope other → block.named startsWithDollar = true →
    left.SameNamed right block.identifiers →
    Together (fun found partner =>
        Statement.forgetTables found.1 = Statement.forgetTables partner.1 ∧ found.2 = partner.2)
      (checkBlock known scope block) (checkBlock known other block)
  | ⟨pos, nodes⟩, scope, other, paired, named, functions => by
      simp only [checkBlock]
      apply (check_nodes_together nodes paired named functions).bind
      intro found partner same
      exact .ok ⟨same.1, congrArg Level.toFrame same.2.level⟩

end

end

theorem find_variable_base {name : String} (dollar : startsWithDollar name = true) (context : Ty)
    (left right : List (String × FunctionType)) :
    (Scope.base context left).level.find? name = (Scope.base context right).level.find? name := by
  have bound : NameMap.get? name (Scope.base context left).level.bindings =
      NameMap.get? name (Scope.base context right).level.bindings := by
    exact (Scope.get_bind_functions dollar left _).trans
      (Scope.get_bind_functions dollar right _).symm
  simp only [Level.find?, bound, Level.generatedName, Scope.renamed_base]

theorem lookup_base (name : String) (context : Ty) (functions : List (String × FunctionType)) :
    Scope.lookup name (Scope.base context functions).levels =
      (Scope.base context functions).level.find? name :=
  lookup_outermost name [] _

/-- Two tables of functions that agree on the functions that a tree names have it accepted alike,
with the same script. -/
theorem script_depends_on_named_functions {known : KnownTemplates} {context : Ty}
    {left right : List (String × FunctionType)} {tree : Tree} {checked : CheckedTemplate}
    (named : tree.named startsWithDollar = true)
    (agree : ∀ ident ∈ tree.identifiers,
      Scope.lookup (functionKey ident) (Scope.base context left).levels =
        Scope.lookup (functionKey ident) (Scope.base context right).levels)
    (accepted : tree.check known (Scope.base context left) = .ok checked) :
    ∃ other, tree.check known (Scope.base context right) = .ok other ∧
      Script.template other = Script.template checked := by
  have paired : Scope.Over (Scope.base context left).level (Scope.base context right).level
      (Scope.base context left).child (Scope.base context right).child :=
    ⟨rfl, ⟨[], rfl, rfl⟩, fun name dollar => find_variable_base dollar context left right⟩
  have functions : (Scope.base context left).level.SameNamed (Scope.base context right).level
      tree.identifiers := by
    intro ident member
    rw [← lookup_base, ← lookup_base]
    exact agree ident member
  obtain ⟨⟨body, frame⟩, block, finished⟩ := bind_ok_iff.mp accepted
  obtain ⟨⟨others, otherFrame⟩, otherBlock, same, frames⟩ :=
    (check_block_together tree.root paired named functions).succeeds block
  refine ⟨⟨tree.name, others, otherFrame⟩, by simp [Tree.check, otherBlock], ?_⟩
  simp only at same frames
  rw [← Except.ok.inj finished]
  unfold Script.template
  simp only
  -- the bodies differ in their tables, the scripts do not
  rw [← frames, ← script_statements_forget_tables others, ← same, script_statements_forget_tables]

/-- A list whose elements are shouted, with a text in front of them. -/
def shoutingTree : Tree :=
  ⟨"list", "", ⟨0, [.branch .range 0 ⟨0, false, [⟨0, ["$x"]⟩], [⟨0, [.dot 0]⟩]⟩
    ⟨0, [.action 0 ⟨0, false, [], [⟨0, [.identifier 0 "shout", .string 0 "- "]⟩,
      ⟨0, [.identifier 0 "shout", .var ⟨0, ["$x"]⟩]⟩]⟩]⟩ none]⟩⟩

def shoutType : FunctionType := ⟨[.string], some .string⟩

/-- A function that the tree does not name comes and goes. -/
theorem shouting_depends_on_shout :
    ∃ checked other,
      shoutingTree.check none (Scope.base (.array .string)
        [("shout", shoutType), ("whisper", shoutType)]) = .ok checked ∧
      shoutingTree.check none (Scope.base (.array .string) [("shout", shoutType)]) = .ok other ∧
      Script.template other = Script.template checked := by
  have succeeds : (shoutingTree.check none (Scope.base (.array .string)
      [("shout", shoutType), ("whisper", shoutType)])).toOption.isSome = true := by decide +kernel
  have agree : ∀ ident ∈ shoutingTree.identifiers,
      Scope.lookup (functionKey ident) (Scope.base (.array .string)
        [("shout", shoutType), ("whisper", shoutType)]).levels =
      Scope.lookup (functionKey ident) (Scope.base (.array .string)
        [("shout", shoutType)]).levels := by decide +kernel
  obtain ⟨checked, accepted⟩ := ok_of_to_option succeeds
  obtain ⟨other, otherAccepted, same⟩ :=
    script_depends_on_named_functions (by decide) agree accepted
  exact ⟨checked, other, accepted, otherAccepted, same⟩

end TemplateScript
