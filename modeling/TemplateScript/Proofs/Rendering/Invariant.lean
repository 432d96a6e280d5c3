import TemplateScript.Proofs.Checked.Growth
import TemplateScript.Proofs.Rendering.Execution
import TemplateScript.Proofs.Rendering.Interpreter

/-!
How the variables of a running script mirror those of the tree.

The tree has its variables in blocks, from where they are declared. The script has them in closures,
from the start of the closure and under generated names. They mirror each other when every variable
in sight has the same value in both, here and in every enclosing block. That is kept by assignments,
by declarations and by entering and leaving blocks, as long as the closures have the names that
their levels end up with.
-/
namespace TemplateScript

variable {F : Type} {world : World F}

/-- The closure of the template serves two levels: the one of its body and the outermost one. -/
inductive Placed : List Level → List (String → Bool) → Prop
  | template {level root : Level} {has : String → Bool} :
      level.Named has → Placed [level, root] [has]
  | block {level : Level} {outer : List Level} {has : String → Bool}
      {others : List (String → Bool)} :
      level.Covers outer has → Placed outer others → Placed (level :: outer) (has :: others)

theorem Placed.named {level : Level} {outer : List Level} {has : String → Bool}
    {others : List (String → Bool)} (placed : Placed (level :: outer) (has :: others)) :
    level.Named has := by
  cases placed with
  | template named => exact named
  | block covers _ => exact covers.named

theorem Placed.before {scope last : Scope} {places : List (String → Bool)}
    (grows : scope.Grows last) (placed : Placed last.levels places) :
    Placed scope.levels places := by
  obtain ⟨lastLevel, lastOuter⟩ := last
  have sameOuter : lastOuter = scope.outer := grows.outer
  subst sameOuter
  obtain ⟨level, outer⟩ := scope
  cases placed with
  | template named => exact .template (grows.named _ named)
  | block covers enclosing => exact .block (grows.covers _ covers) enclosing

/-- A variable in sight has one value, under its own name in the blocks and under its generated name
in the closures. -/
def Sees (world : World F) (levels : List Level) (blocks : List (NameMap (Reflected F)))
    (closures : List (Closure F)) : Prop :=
  ∀ var name ty, isVariable var = true → Scope.lookup var levels = some (name, ty) →
    ∃ datum, Stack.find? var blocks = some ⟨ty, datum⟩ ∧
      Stack.find? name closures = some (some datum) ∧ Conforms world ty datum

inductive Mirrors (world : World F) :
    List Level → List (NameMap (Reflected F)) → List (Closure F) → Prop
  | template {level root : Level} {block : NameMap (Reflected F)} {closure : Closure F} :
      Sees world [level, root] [block] [closure] → Mirrors world [level, root] [block] [closure]
  | block {level : Level} {outer : List Level} {block : NameMap (Reflected F)}
      {blocks : List (NameMap (Reflected F))} {closure : Closure F} {closures : List (Closure F)} :
      Sees world (level :: outer) (block :: blocks) (closure :: closures) →
      (∀ var, isVariable var = true → NameMap.contains var block = level.binds var) →
      Mirrors world outer blocks closures →
      Mirrors world (level :: outer) (block :: blocks) (closure :: closures)

theorem Mirrors.sees {levels : List Level} {blocks : List (NameMap (Reflected F))}
    {closures : List (Closure F)} (mirrors : Mirrors world levels blocks closures) :
    Sees world levels blocks closures := by
  cases mirrors with
  | template sees => exact sees
  | block sees _ _ => exact sees

/-- Inside a block there is a closure of its own, which covers the level. -/
theorem Placed.inside {level : Level} {outer : List Level} {closure : Closure F}
    {blocks : List (NameMap (Reflected F))} {closures : List (Closure F)}
    (enclosing : Mirrors world outer blocks closures)
    (placed : Placed (level :: outer) (Stack.declared (closure :: closures))) :
    level.Covers outer (fun name => NameMap.contains name closure) ∧
      Placed outer (Stack.declared closures) := by
  obtain ⟨first, rest, rfl⟩ : ∃ first rest, closures = first :: rest := by
    cases enclosing <;> exact ⟨_, _, rfl⟩
  cases placed with
  | block covers outerPlaced => exact ⟨covers, outerPlaced⟩

/-- Writing one variable on both sides. The scope may change what that variable means, but not what
any other one does. -/
theorem Sees.write {levels next : List Level} {blocks written : List (NameMap (Reflected F))}
    {closures closed : List (Closure F)} (sees : Sees world levels blocks closures)
    (regular : Scope.Regular next) {var name : String} {ty : Ty} {datum : Datum F}
    (isVar : isVariable var = true) (found : Scope.lookup var next = some (name, ty))
    (others : ∀ key, key ≠ var → Scope.lookup key next = Scope.lookup key levels)
    (conforms : Conforms world ty datum)
    (inBlocks : ∀ key, Stack.find? key written =
      if key = var then some ⟨ty, datum⟩ else Stack.find? key blocks)
    (inClosures : ∀ key, Stack.find? key closed =
      if key = name then some (some datum) else Stack.find? key closures) :
    Sees world next written closed := by
  intro key generated keyTy keyIsVar keyFound
  by_cases same : key = var
  · subst same
    rw [found] at keyFound
    simp only [Option.some.injEq, Prod.mk.injEq] at keyFound
    obtain ⟨rfl, rfl⟩ := keyFound
    exact ⟨datum, by simp [inBlocks], by simp [inClosures], conforms⟩
  · have apart : generated ≠ name := by
      intro same
      subst same
      exact same (Scope.lookup_injective regular keyIsVar isVar keyFound found)
    rw [others key same] at keyFound
    rw [inBlocks, inClosures, if_neg same, if_neg apart]
    exact sees key generated keyTy keyIsVar keyFound

/-- An assignment reaches the same variable on both sides, in whatever block it is. -/
theorem Mirrors.assign {levels : List Level} {blocks : List (NameMap (Reflected F))}
    {closures : List (Closure F)} (mirrors : Mirrors world levels blocks closures)
    (regular : Scope.Regular levels) (placed : Placed levels (Stack.declared closures))
    {var name : String} {ty : Ty} {datum : Datum F} (isVar : isVariable var = true)
    (found : Scope.lookup var levels = some (name, ty)) (conforms : Conforms world ty datum) :
    ∃ written closed, Stack.write? var ⟨ty, datum⟩ blocks = some written ∧
      Stack.write? name (some datum) closures = some closed ∧
      Mirrors world levels written closed := by
  induction mirrors with
  | @template level root block closure sees =>
      obtain ⟨old, inBlock, inClosure, _⟩ := sees var name ty isVar found
      have wrote := Stack.write_here (⟨ty, datum⟩ : Reflected F) []
        (Stack.contains_of_find_alone inBlock)
      have closed := Stack.write_here (some datum) [] (Stack.contains_of_find_alone inClosure)
      have seen := sees.write regular isVar found (fun _ _ => rfl) conforms
        (Stack.find_write wrote) (Stack.find_write closed)
      exact ⟨_, _, wrote, closed, .template seen⟩
  | @block level outer block blocks closure closures sees names enclosing ih =>
      obtain ⟨covers, outerPlaced⟩ := placed.inside enclosing
      rcases Scope.lookup_cons_cases found with ⟨entry, rfl⟩ | ⟨unbound, further⟩
      · have bound := Level.binds_of_get entry
        have blockHas : NameMap.contains var block = true := by rw [names var isVar, bound]
        have wrote := Stack.write_here (⟨ty, datum⟩ : Reflected F) blocks blockHas
        have closed := Stack.write_here (some datum) closures (covers.named var isVar bound)
        have seen := sees.write regular isVar found (fun _ _ => rfl) conforms
          (Stack.find_write wrote) (Stack.find_write closed)
        refine ⟨_, _, wrote, closed, .block seen ?_ enclosing⟩
        intro key keyIsVar
        rw [NameMap.contains_insert, names key keyIsVar]
        by_cases same : key = var
        · simp [same, bound]
        · simp [same]
      -- both writes pass by this level: its closure never has a name that is in sight outside
      · have blockLacks : NameMap.contains var block = false := by rw [names var isVar, unbound]
        have closureLacks := covers.avoids regular.2 isVar unbound further
        obtain ⟨written, closed, wroteOuter, closedOuter, outerMirrors⟩ :=
          ih regular.2 outerPlaced further
        have wrote : Stack.write? var ⟨ty, datum⟩ (block :: blocks) = some (block :: written) := by
          rw [Stack.write_further _ _ blockLacks, wroteOuter, Option.map_some]
        have closes : Stack.write? name (some datum) (closure :: closures) =
            some (closure :: closed) := by
          rw [Stack.write_further _ _ closureLacks, closedOuter, Option.map_some]
        have seen := sees.write regular isVar found (fun _ _ => rfl) conforms
          (Stack.find_write wrote) (Stack.find_write closes)
        exact ⟨_, _, wrote, closes, .block seen names outerMirrors⟩

/-- A declaration goes to the innermost block. Its closure has the variable already. -/
theorem Mirrors.declare {scope : Scope} {blocks : List (NameMap (Reflected F))}
    {closures : List (Closure F)} {var : String} {ty : Ty} {datum : Datum F}
    (mirrors : Mirrors world scope.levels blocks closures)
    (regular : Scope.Regular (scope.declareLocal var ty).2.levels)
    (placed : Placed (scope.declareLocal var ty).2.levels (Stack.declared closures))
    (isVar : isVariable var = true) (conforms : Conforms world ty datum) :
    ∃ block outer closed, blocks = block :: outer ∧
      Stack.write? (scope.declareLocal var ty).1 (some datum) closures = some closed ∧
      Mirrors world (scope.declareLocal var ty).2.levels
        (NameMap.insert var ⟨ty, datum⟩ block :: outer) closed := by
  have bound : (scope.declareLocal var ty).2.level.binds var = true := by simp
  have found : Scope.lookup var (scope.declareLocal var ty).2.levels =
      some ((scope.declareLocal var ty).1, ty) := Scope.lookup_bound _ (by simp)
  have others : ∀ key, key ≠ var → Scope.lookup key (scope.declareLocal var ty).2.levels =
      Scope.lookup key scope.levels := by
    intro key apart
    exact Scope.lookup_declare_local_other apart ty scope
  have inserted : ∀ (block : NameMap (Reflected F)) (blocks : List (NameMap (Reflected F))) key,
      Stack.find? key (NameMap.insert var ⟨ty, datum⟩ block :: blocks) =
        if key = var then some ⟨ty, datum⟩ else Stack.find? key (block :: blocks) := by
    intro block blocks key
    by_cases same : key = var <;> simp [Stack.find_cons, same]
  obtain ⟨level, outer⟩ := scope
  cases mirrors with
  | @template _ root block closure sees =>
      have closed := Stack.write_here (some datum) [] (placed.named var isVar bound)
      have seen := sees.write regular isVar found others conforms (inserted block [])
        (Stack.find_write closed)
      exact ⟨block, [], _, rfl, closed, .template seen⟩
  | @block _ _ block blocks closure closures sees names enclosing =>
      have closed := Stack.write_here (some datum) closures (placed.named var isVar bound)
      have seen := sees.write regular isVar found others conforms (inserted block blocks)
        (Stack.find_write closed)
      refine ⟨block, blocks, _, rfl, closed, .block seen ?_ enclosing⟩
      intro key keyIsVar
      rw [NameMap.contains_insert, names key keyIsVar, Scope.binds_declare_local]

/-- The types, the values and both under their names, for the variables that a block starts with. -/
def paramTypes (params : List (String × Reflected F)) : NameMap Ty :=
  NameMap.ofList (params.map fun param => (param.1, param.2.ty))

def paramData (params : List (String × Reflected F)) : List (String × Datum F) :=
  params.map fun param => (param.1, param.2.datum)

theorem get_start (params : List (String × Reflected F)) (hoisted : List String) (key : String) :
    NameMap.get? key (Closure.start (paramData params) hoisted) =
      ((NameMap.get? key (NameMap.ofList params)).map fun param => some param.datum).or
        (NameMap.get? key (NameMap.ofList (hoisted.map fun name => (name, none)))) := by
  have entries : ((paramData params).map fun param => (param.1, some param.2)) =
      params.map fun param => (param.1, some param.2.datum) := by
    simp [paramData]
  rw [Closure.start, entries, NameMap.get_insert_all,
    NameMap.get_of_list_map key (fun param : Reflected F => some param.datum)]

/-- A block starts with its parameters on both sides. What else its closure has stands for later
declarations, and hides nothing that can be seen now. -/
theorem Mirrors.enter {outer : List Level} {blocks : List (NameMap (Reflected F))}
    {closures : List (Closure F)} (enclosing : Mirrors world outer blocks closures)
    (regular : Scope.Regular outer) {level : Level} {params : List (String × Reflected F)}
    {hoisted : List String} (bindings : level.bindings = paramTypes params)
    (plain : level.renamed = [])
    (conform : ∀ param ∈ params, Conforms world param.2.ty param.2.datum)
    (covers : level.Covers outer
      (fun name => NameMap.contains name (Closure.start (paramData params) hoisted))) :
    Mirrors world (level :: outer) (NameMap.ofList params :: blocks)
      (Closure.start (paramData params) hoisted :: closures) := by
  have types : ∀ key, NameMap.get? key level.bindings =
      (NameMap.get? key (NameMap.ofList params)).map Reflected.ty := by
    intro key
    rw [bindings, paramTypes, NameMap.get_of_list_map key Reflected.ty]
  have names : ∀ var, NameMap.contains var (NameMap.ofList params) = level.binds var := by
    intro var
    simp [NameMap.contains, Level.binds, types]
  refine .block ?_ (fun var _ => names var) enclosing
  intro var name ty isVar found
  rcases Scope.lookup_cons_cases found with ⟨entry, rfl⟩ | ⟨unbound, further⟩
  · rw [types, Option.map_eq_some_iff] at entry
    obtain ⟨param, present, rfl⟩ := entry
    have own : level.generatedName var = var := by simp [Level.generatedName, plain, NameMap.get?]
    refine ⟨param.datum, Stack.find_here _ present, Stack.find_here _ ?_,
      conform (var, param) (NameMap.mem_of_get_of_list present)⟩
    rw [own, get_start, present]
    rfl
  · obtain ⟨datum, inBlocks, inClosures, conforms⟩ := enclosing.sees var name ty isVar further
    have blockLacks : NameMap.contains var (NameMap.ofList params) = false := by
      rw [names, unbound]
    have closureLacks := covers.avoids regular isVar unbound further
    exact ⟨datum, by rw [Stack.find_further _ blockLacks, inBlocks],
      by rw [Stack.find_further _ closureLacks, inClosures], conforms⟩

/-- What is left of a block when it is over is what its enclosing block made of it. -/
theorem Mirrors.leave {level : Level} {outer : List Level}
    {before blocks : List (NameMap (Reflected F))} {started closures : List (Closure F)}
    (enclosing : Mirrors world outer before started)
    (mirrors : Mirrors world (level :: outer) blocks closures) :
    Mirrors world outer blocks.tail closures.tail := by
  cases mirrors with
  | template sees => cases enclosing with | block _ _ outer => cases outer
  | block _ _ left => exact left

end TemplateScript
