import TemplateScript.Proofs.NameMap

/-!
Name maps inside each other, innermost first.

Reading a name and writing it go to the innermost map that has it. Writing changes no map but that
one, and no map gains or loses a name by it.
-/
namespace TemplateScript.Stack

variable {α : Type}

def find? (name : String) (stack : List (NameMap α)) : Option α :=
  stack.findSome? (NameMap.get? name)

def write? (name : String) (value : α) : List (NameMap α) → Option (List (NameMap α))
  | [] => none
  | map :: outer =>
      if NameMap.contains name map then some (NameMap.insert name value map :: outer)
      else (write? name value outer).map (map :: ·)

def declared (stack : List (NameMap α)) : List (String → Bool) :=
  stack.map fun map name => NameMap.contains name map

theorem find_cons (name : String) (map : NameMap α) (outer : List (NameMap α)) :
    find? name (map :: outer) = (NameMap.get? name map).or (find? name outer) := by
  cases found : NameMap.get? name map <;> simp [find?, found]

theorem find_here {name : String} {value : α} {map : NameMap α} (outer : List (NameMap α))
    (found : NameMap.get? name map = some value) : find? name (map :: outer) = some value := by
  simp [find_cons, found]

theorem find_further {name : String} {map : NameMap α} (outer : List (NameMap α))
    (absent : NameMap.contains name map = false) :
    find? name (map :: outer) = find? name outer := by
  simp [find_cons, NameMap.get_of_not_contains absent]

theorem contains_of_find_alone {name : String} {value : α} {map : NameMap α}
    (found : find? name [map] = some value) : NameMap.contains name map = true := by
  rw [find_cons, show find? name ([] : List (NameMap α)) = none from rfl, Option.or_none] at found
  exact NameMap.contains_of_get found

theorem write_here {name : String} {map : NameMap α} (value : α) (outer : List (NameMap α))
    (present : NameMap.contains name map = true) :
    write? name value (map :: outer) = some (NameMap.insert name value map :: outer) := by
  simp [write?, present]

theorem write_further {name : String} {map : NameMap α} (value : α) (outer : List (NameMap α))
    (absent : NameMap.contains name map = false) :
    write? name value (map :: outer) = (write? name value outer).map (map :: ·) := by
  simp [write?, absent]

/-- After writing, the name has the new value and every other name what it had. -/
theorem find_write {name : String} {value : α} {stack written : List (NameMap α)}
    (wrote : write? name value stack = some written) (key : String) :
    find? key written = if key = name then some value else find? key stack := by
  induction stack generalizing written with
  | nil => cases wrote
  | cons map outer ih =>
      cases present : NameMap.contains name map with
      | true =>
          rw [write_here value outer present] at wrote
          rw [← Option.some.inj wrote, find_cons, find_cons, NameMap.get_insert]
          by_cases same : key = name
          · simp [same]
          · simp [same]
      | false =>
          rw [write_further value outer present] at wrote
          obtain ⟨rest, wroteRest, rfl⟩ := Option.map_eq_some_iff.mp wrote
          rw [find_cons, find_cons, ih wroteRest]
          by_cases same : key = name
          · subst same
            simp [NameMap.get_of_not_contains present]
          · simp [same]

theorem declared_write {name : String} {value : α} {stack written : List (NameMap α)}
    (wrote : write? name value stack = some written) : declared written = declared stack := by
  induction stack generalizing written with
  | nil => cases wrote
  | cons map outer ih =>
      cases present : NameMap.contains name map with
      | true =>
          rw [write_here value outer present] at wrote
          have same : (fun key => NameMap.contains key (NameMap.insert name value map)) =
              fun key => NameMap.contains key map := by
            funext key
            rw [NameMap.contains_insert]
            by_cases own : key = name
            · simp [own, present]
            · simp [own]
          rw [← Option.some.inj wrote]
          exact congrArg (· :: declared outer) same
      | false =>
          rw [write_further value outer present] at wrote
          obtain ⟨rest, wroteRest, rfl⟩ := Option.map_eq_some_iff.mp wrote
          exact congrArg ((fun key => NameMap.contains key map) :: ·) (ih wroteRest)

end TemplateScript.Stack
