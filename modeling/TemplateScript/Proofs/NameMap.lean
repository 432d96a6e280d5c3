import Mathlib.Tactic.Tauto
import TemplateScript.Text.NameMap

/-!
What a name map holds after insertions.

Most statements are about lookups and about which names a map has. None of these needs the map to
be ordered, since insertion puts the new entry in front of any other one under its name. Insertion
keeps the order of an ordered map, and an ordered map is what its own entries build.
-/
namespace TemplateScript.NameMap

variable {α β : Type}

@[simp] theorem get_insert (key name : String) (value : α) (map : NameMap α) :
    get? key (insert name value map) = if key = name then some value else get? key map := by
  induction map with
  | nil =>
      by_cases same : key = name
      · simp [insert, get?, same]
      · simp [insert, get?, same, Ne.symm same]
  | cons entry rest ih =>
      obtain ⟨first, old⟩ := entry
      by_cases here : first = name
      · subst here
        by_cases same : key = first
        · simp [insert, get?, same]
        · simp [insert, get?, same, Ne.symm same]
      · by_cases found : first = key
        · subst found
          by_cases before : name < first
          · simp [insert, get?, here, before, Ne.symm here]
          · simp [insert, get?, here, before]
        · by_cases before : name < first
          · by_cases same : key = name
            · simp [insert, get?, here, before, same]
            · simp [insert, get?, here, before, found, same, Ne.symm same]
          · simp [insert, get?, here, before, found, ih]

@[simp] theorem contains_insert (key name : String) (value : α) (map : NameMap α) :
    contains key (insert name value map) = (decide (key = name) || contains key map) := by
  by_cases same : key = name <;> simp [contains, same]

@[simp] theorem contains_nil (key : String) : contains key ([] : NameMap α) = false := rfl

theorem contains_of_get {key : String} {value : α} {map : NameMap α}
    (found : get? key map = some value) : contains key map = true := by
  simp [contains, found]

theorem get_of_contains {key : String} {map : NameMap α} (found : contains key map = true) :
    ∃ value, get? key map = some value :=
  Option.isSome_iff_exists.mp found

theorem get_of_not_contains {key : String} {map : NameMap α} (absent : contains key map = false) :
    get? key map = none :=
  Option.isSome_eq_false_iff.mp absent |> Option.isNone_iff_eq_none.mp

theorem mem_keys_iff (key : String) (map : NameMap α) :
    key ∈ keys map ↔ contains key map = true := by
  induction map with
  | nil => simp [keys]
  | cons entry rest ih =>
      obtain ⟨first, value⟩ := entry
      by_cases same : first = key
      · simp [keys, contains, get?, same]
      · have shorter : contains key ((first, value) :: rest) = contains key rest := by
          simp [contains, get?, same]
        have apart : key ≠ first := Ne.symm same
        simpa [shorter, keys, apart] using ih

theorem get_append (key : String) (left right : NameMap α) :
    get? key (left ++ right) = (get? key left).or (get? key right) := by
  induction left with
  | nil => simp [get?]
  | cons entry rest ih =>
      obtain ⟨first, value⟩ := entry
      by_cases same : first = key
      · simp [get?, same]
      · simp [get?, same, ih]

theorem get_insert_all_absent (key : String) (entries : List (String × α)) (map : NameMap α)
    (absent : key ∉ entries.map Prod.fst) :
    get? key (insertAll entries map) = get? key map := by
  induction entries generalizing map with
  | nil => rfl
  | cons entry rest ih =>
      have others : key ∉ rest.map Prod.fst := fun member => absent (by simp [member])
      have apart : key ≠ entry.1 := fun same => absent (by simp [same])
      have step := ih (insert entry.1 entry.2 map) others
      simpa [insertAll, apart] using step

theorem contains_insert_all (key : String) (entries : List (String × α)) (map : NameMap α) :
    contains key (insertAll entries map) = true ↔
      key ∈ entries.map Prod.fst ∨ contains key map = true := by
  induction entries generalizing map with
  | nil => simp [insertAll]
  | cons entry rest ih =>
      have step := ih (insert entry.1 entry.2 map)
      simp only [insertAll, List.foldl_cons] at step ⊢
      rw [step]
      simp only [contains_insert, Bool.or_eq_true, decide_eq_true_eq, List.map_cons, List.mem_cons]
      tauto

theorem contains_of_list (key : String) (entries : List (String × α)) :
    contains key (ofList entries) = true ↔ key ∈ entries.map Prod.fst := by
  simp [ofList, contains_insert_all]

theorem get_insert_all (key : String) (entries : List (String × α)) (map : NameMap α) :
    get? key (insertAll entries map) = (get? key (ofList entries)).or (get? key map) := by
  induction entries generalizing map with
  | nil => simp [insertAll, ofList, get?]
  | cons entry rest ih =>
      have step := ih (insert entry.1 entry.2 map)
      have fresh := ih (insert entry.1 entry.2 [])
      simp only [insertAll, ofList, List.foldl_cons] at step fresh ⊢
      rw [step, fresh]
      by_cases same : key = entry.1
      · simp [same]
      · simp [same, get?]

theorem get_of_list_map (key : String) (change : α → β) (entries : List (String × α)) :
    get? key (ofList (entries.map fun entry => (entry.1, change entry.2))) =
      (get? key (ofList entries)).map change := by
  induction entries with
  | nil => rfl
  | cons entry rest ih =>
      have left := get_insert_all key (rest.map fun entry => (entry.1, change entry.2))
        (insert entry.1 (change entry.2) [])
      have right := get_insert_all key rest (insert entry.1 entry.2 [])
      rw [ih] at left
      simp only [ofList, insertAll, List.map_cons, List.foldl_cons] at left right ⊢
      rw [left, right]
      by_cases same : key = entry.1
      · cases get? key (rest.foldl (fun built entry => insert entry.1 entry.2 built) []) <;>
          simp [same]
      · simp [same, get?]

theorem mem_of_get_of_list {key : String} {value : α} {entries : List (String × α)}
    (found : get? key (ofList entries) = some value) : (key, value) ∈ entries := by
  induction entries with
  | nil => cases found
  | cons entry rest ih =>
      have inserted : ofList (entry :: rest) = insertAll rest (insert entry.1 entry.2 []) := rfl
      rw [inserted, get_insert_all] at found
      cases later : get? key (ofList rest) with
      | some other =>
          rw [later] at found
          cases found
          exact List.mem_cons_of_mem _ (ih later)
      | none =>
          rw [later] at found
          by_cases same : key = entry.1
          · subst same
            simp only [get_insert, if_true, Option.none_or, Option.some.injEq] at found
            simp [← found]
          · simp [same, get?] at found

section Order

variable {map : NameMap α}

theorem mem_insert_all {entries : List (String × α)} {entry : String × α}
    (member : entry ∈ insertAll entries map) : entry ∈ entries ∨ entry ∈ map := by
  induction entries generalizing map with
  | nil => exact .inr member
  | cons first rest ih =>
      rcases ih member with later | built
      · exact .inl (List.mem_cons_of_mem _ later)
      · rcases mem_insert built with rfl | old
        · exact .inl List.mem_cons_self
        · exact .inr old

theorem insert_last {name : String} (value : α) (greatest : ∀ entry ∈ map, entry.1 < name) :
    insert name value map = map ++ [(name, value)] := by
  induction map with
  | nil => rfl
  | cons first rest ih =>
      obtain ⟨before, others⟩ := List.forall_mem_cons.mp greatest
      have apart : first.1 ≠ name := fun same => String.lt_irrefl name (same ▸ before)
      have after : ¬name < first.1 := String.lt_asymm before
      simp [insert, apart, after, ih others]

theorem insert_all_last (entries : List (String × α)) (ordered : Ordered (map ++ entries)) :
    insertAll entries map = map ++ entries := by
  induction entries generalizing map with
  | nil => simp [insertAll]
  | cons entry rest ih =>
      have greatest : ∀ earlier ∈ map, earlier.1 < entry.1 := fun earlier member =>
        (List.pairwise_append.mp ordered).2.2 earlier member entry List.mem_cons_self
      have appended : map ++ entry :: rest = map ++ [entry] ++ rest := by simp
      have step := ih (appended ▸ ordered)
      rw [← insert_last entry.2 greatest] at step
      simpa [insertAll, insert_last entry.2 greatest] using step

theorem keys_sorted (ordered : Ordered map) : (keys map).Pairwise (· < ·) :=
  List.pairwise_map.mpr ordered

theorem of_list_ordered (ordered : Ordered map) : ofList map = map :=
  insert_all_last map ordered

end Order

end TemplateScript.NameMap
