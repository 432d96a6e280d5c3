/-!
Finite maps keyed by name, kept as association lists.

Insertion keeps the names in increasing order of their code points, so each name occurs once in a
map built by insertion. The order is the one in which maps are written and walked.
-/
namespace TemplateScript

abbrev NameMap (α : Type) := List (String × α)

namespace NameMap

variable {α : Type}

def get? (name : String) : NameMap α → Option α
  | [] => none
  | (key, value) :: rest => if key = name then some value else get? name rest

def contains (name : String) (map : NameMap α) : Bool :=
  (get? name map).isSome

/-- The new value replaces an old one under the same name. -/
def insert (name : String) (value : α) : NameMap α → NameMap α
  | [] => [(name, value)]
  | (key, old) :: rest =>
      if key = name then (name, value) :: rest
      else if name < key then (name, value) :: (key, old) :: rest
      else (key, old) :: insert name value rest

def keys (map : NameMap α) : List String :=
  map.map Prod.fst

/-- Inserts the entries from left to right, so the last one under a name stays. -/
def insertAll (entries : List (String × α)) (map : NameMap α) : NameMap α :=
  entries.foldl (fun built entry => insert entry.1 entry.2 built) map

def ofList (entries : List (String × α)) : NameMap α :=
  insertAll entries []

/-- Smaller names stand in front, so each name occurs once. -/
def Ordered (map : NameMap α) : Prop :=
  map.Pairwise fun entry later => entry.1 < later.1

variable {map : NameMap α}

theorem mem_insert {name : String} {value : α} {entry : String × α}
    (member : entry ∈ insert name value map) : entry = (name, value) ∨ entry ∈ map := by
  induction map with
  | nil => simpa [insert] using member
  | cons first rest ih =>
      simp only [insert] at member
      split at member
      · exact (List.mem_cons.mp member).imp_right (List.mem_cons_of_mem _)
      · split at member
        · exact List.mem_cons.mp member
        · rcases List.mem_cons.mp member with rfl | later
          · exact .inr List.mem_cons_self
          · exact (ih later).imp_right (List.mem_cons_of_mem _)

theorem ordered_insert (name : String) (value : α) (ordered : Ordered map) :
    Ordered (insert name value map) := by
  induction map with
  | nil => simp [insert, Ordered]
  | cons first rest ih =>
      obtain ⟨key, old⟩ := first
      obtain ⟨greater, others⟩ := List.pairwise_cons.mp ordered
      simp only [insert]
      split
      · next same =>
          subst same
          exact List.pairwise_cons.mpr ⟨greater, others⟩
      · next apart =>
          split
          · next before =>
              refine List.pairwise_cons.mpr ⟨?_, ordered⟩
              intro entry member
              rcases List.mem_cons.mp member with rfl | later
              · exact before
              · exact String.lt_trans before (greater entry later)
          · next after =>
              have first : key < name :=
                (Std.lt_trichotomy key name).resolve_right (by simp [apart, after])
              refine List.pairwise_cons.mpr ⟨?_, ih others⟩
              intro entry member
              rcases mem_insert member with rfl | later
              · exact first
              · exact greater entry later

theorem ordered_insert_all (entries : List (String × α)) (ordered : Ordered map) :
    Ordered (insertAll entries map) := by
  induction entries generalizing map with
  | nil => exact ordered
  | cons entry rest ih => exact ih (ordered_insert entry.1 entry.2 ordered)

end NameMap

end TemplateScript
