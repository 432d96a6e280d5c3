import TemplateScript.Proofs.Scope.Levels

/-!
Hoisting: when a level is complete, every variable it ever declared exists from its start.

A set of names covers a level when it can stand for the complete level while the level is still
growing. It has what the level binds so far, and it lacks the names that now mean a variable of an
enclosing level, because a later declaration of such a name will be renamed. The frame of a level
covers it, and what covers a level after a declaration covers it before, so the frame of the
complete level covers it at every earlier moment.
-/
namespace TemplateScript

/-- What the level binds is there under its generated name. -/
def Level.Named (level : Level) (has : String → Bool) : Prop :=
  ∀ name, isVariable name = true → level.binds name = true → has (level.generatedName name) = true

/-- The names that the level will have in the end, as far as can be told now. -/
structure Level.Covers (outer : List Level) (level : Level) (has : String → Bool) : Prop where
  named : level.Named has
  /-- A visible name of an enclosing level is only there if this level binds it as it is. -/
  free : ∀ name, isVariable name = true → (Scope.lookup name outer).isSome = true →
    ¬level.keeps name → has name = false
  form : ∀ generated, has generated = true →
    isVariable generated = true ∨
      (∃ name, isVariable name = true ∧ generated = Scope.shadowName name outer.length) ∨
      startsWithDollar generated = false

def Frame.has (frame : Frame) (name : String) : Bool :=
  NameMap.contains name frame.locals

theorem has_to_frame (generated : String) (level : Level) :
    level.toFrame.has generated = true ↔
      ∃ name, level.binds name = true ∧ level.generatedName name = generated := by
  simp only [Frame.has, Level.toFrame, NameMap.contains_of_list, List.map_map, List.mem_map,
    Function.comp_apply]
  constructor
  · intro given
    rcases given with ⟨⟨name, ty⟩, member, rfl⟩
    have key : name ∈ NameMap.keys level.bindings := List.mem_map_of_mem member
    exact ⟨name, (NameMap.mem_keys_iff name level.bindings).mp key, rfl⟩
  · intro given
    rcases given with ⟨name, bound, rfl⟩
    have key := (NameMap.mem_keys_iff name level.bindings).mpr bound
    obtain ⟨entry, member, rfl⟩ := List.mem_map.mp key
    exact ⟨entry, member, rfl⟩

theorem frame_covers {outer : List Level} {level : Level} (regular : level.Regular outer.length) :
    level.Covers outer level.toFrame.has where
  named := fun name _ bound => (has_to_frame _ level).mpr ⟨name, bound, rfl⟩
  free := by
    intro name written _ loose
    rw [Bool.eq_false_iff]
    intro found
    obtain ⟨other, bound, generated⟩ := (has_to_frame name level).mp found
    rcases regular.generated other with ⟨own, kept⟩ | ⟨renamed, otherWritten⟩
    · rw [own] at generated
      subst generated
      exact loose ⟨bound, kept⟩
    · rw [← generated, renamed, Scope.shadow_name_not_variable otherWritten] at written
      cases written
  form := by
    intro generated found
    obtain ⟨name, bound, rfl⟩ := (has_to_frame generated level).mp found
    rcases regular.generated name with ⟨own, _⟩ | ⟨renamed, written⟩
    · rw [own]
      rcases regular.written name bound with written | other
      · exact .inl written
      · exact .inr (.inr other)
    · exact .inr (.inl ⟨name, written, renamed⟩)

/-- Declaring keeps what a level lacked: the new variable hides one and is renamed. -/
theorem keeps_before_declare_local {key name : String} {ty : Ty} {scope : Scope}
    (visible : (Scope.lookup key scope.outer).isSome = true)
    (kept : (scope.declareLocal name ty).2.level.keeps key) : scope.level.keeps key := by
  obtain ⟨bound, plain⟩ := kept
  rw [Scope.renamed_declare_local] at plain
  split at plain
  · cases plain
  · next notHidden =>
      refine ⟨?_, plain⟩
      rw [Scope.binds_declare_local] at bound
      by_cases same : key = name
      · subst same
        by_contra unbound
        simp only [Level.binds] at unbound
        exact notHidden ⟨rfl, by simp [Scope.hides, unbound, visible]⟩
      · simpa [same] using bound

theorem Level.Named.before_declare_local {name : String} {ty : Ty} {scope : Scope}
    {has : String → Bool} (named : (scope.declareLocal name ty).2.level.Named has) :
    scope.level.Named has := by
  intro key written bound
  have later := named key written (by simp [bound])
  rwa [Scope.generated_name_kept name ty bound] at later

theorem Level.Covers.before_declare_local {name : String} {ty : Ty} {scope : Scope}
    {has : String → Bool} (covers : (scope.declareLocal name ty).2.level.Covers scope.outer has) :
    scope.level.Covers scope.outer has where
  named := covers.named.before_declare_local
  free := by
    intro key written visible loose
    exact covers.free key written visible
      (fun kept => loose (keeps_before_declare_local visible kept))
  form := covers.form

/-- A name that means a variable of an enclosing level is not captured on the way there. -/
theorem Level.Covers.avoids {outer : List Level} {level : Level} {has : String → Bool}
    (covers : level.Covers outer has) (regular : Scope.Regular outer) {name generated : String}
    {ty : Ty} (written : isVariable name = true) (unbound : level.binds name = false)
    (found : Scope.lookup name outer = some (generated, ty)) :
    has generated = false := by
  rcases Scope.lookup_generated regular found with rfl | ⟨depth, inner, _, rfl⟩
  · apply covers.free generated written (by simp [found])
    intro given
    rcases given with ⟨bound, _⟩
    simp [unbound] at bound
  · rw [Bool.eq_false_iff]
    intro captured
    -- a generated name carries the depth of its level, and this level is further in
    rcases covers.form _ captured with plain | ⟨other, otherWritten, same⟩ | mark
    · simp [Scope.shadow_name_not_variable written] at plain
    · have depths := (Scope.shadow_name_injective written otherWritten same).2
      omega
    · simp [Scope.shadow_name_starts_with_dollar written] at mark

def CoversAll : List Level → List (String → Bool) → Prop
  | [], [] => True
  | level :: outer, has :: others => level.Covers outer has ∧ CoversAll outer others
  | _, _ => False

/-- The innermost place with the generated name is the innermost level that binds the variable. -/
theorem CoversAll.resolves {levels : List Level} {places : List (String → Bool)}
    (covers : CoversAll levels places) (regular : Scope.Regular levels) {name generated : String}
    {ty : Ty} (written : isVariable name = true)
    (found : Scope.lookup name levels = some (generated, ty)) :
    ∃ index, levels.findIdx? (Level.binds name) = some index ∧
      places.findIdx? (fun has => has generated) = some index := by
  induction levels generalizing places with
  | nil => simp [Scope.lookup] at found
  | cons level outer ih =>
      cases places with
      | nil => exact covers.elim
      | cons has others =>
          rcases Scope.lookup_cons_cases found with ⟨entry, rfl⟩ | ⟨unbound, further⟩
          · have bound := Level.binds_of_get entry
            have there := covers.1.named name written bound
            exact ⟨0, by simp [List.findIdx?_cons, bound], by simp [List.findIdx?_cons, there]⟩
          · have absent := covers.1.avoids regular.2 written unbound further
            obtain ⟨index, atLevel, atPlace⟩ := ih covers.2 regular.2 further
            exact ⟨index + 1, by simp [List.findIdx?_cons, unbound, atLevel],
              by simp [List.findIdx?_cons, absent, atPlace]⟩

end TemplateScript
