import Mathlib.Data.List.Basic
import Mathlib.Data.List.Induction
import TemplateScript.Bundle
import TemplateScript.Proofs.Checked.Inversion

/-!
What a bundle keeps of the calls that built it.

A bundle is a map in the order of insertion: a template that is added again takes the place of the
earlier one, with its tree and its shape. So a bundle is told from its history by two things, the
order in which names were added for the first time and the last call for each name.
-/
namespace TemplateScript.Bundle

inductive Addition
  | plain (tree : Tree)
  | typed (tree : Tree) (shape : Shape)

namespace Addition

def entry : Addition → Entry
  | .plain tree => ⟨tree, none⟩
  | .typed tree shape => ⟨tree, some shape⟩

def name (addition : Addition) : String :=
  addition.entry.tree.name

def perform (bundle : Bundle) : Addition → Bundle
  | .plain tree => bundle.add tree
  | .typed tree shape => bundle.addTyped tree shape

end Addition

def after (options : Options) (history : List Addition) : Bundle :=
  history.foldl Addition.perform (empty options)

/-- The names in the order in which they were first added. -/
def firstNames (history : List Addition) : List String :=
  (history.map Addition.name).eraseDups

def lastFor? (name : String) (history : List Addition) : Option Addition :=
  (history.filter fun addition => addition.name = name).getLast?

/-- Of the calls for each name only the last one, in the order of the first ones. -/
def latest (history : List Addition) : List Addition :=
  (firstNames history).filterMap fun name => lastFor? name history

theorem mem_first_names {name : String} {history : List Addition} :
    name ∈ firstNames history ↔ name ∈ history.map Addition.name := by
  simp [firstNames]

theorem first_names_known {history : List Addition} {addition : Addition}
    (known : addition.name ∈ firstNames history) :
    firstNames (history ++ [addition]) = firstNames history := by
  rw [mem_first_names] at known
  have dropped : [addition.name].removeAll (history.map Addition.name) = [] := by
    simpa [List.removeAll] using known
  rw [firstNames, List.map_append, List.eraseDups_append, List.map_singleton, dropped]
  exact List.append_nil _

theorem first_names_new {history : List Addition} {addition : Addition}
    (new : addition.name ∉ firstNames history) :
    firstNames (history ++ [addition]) = firstNames history ++ [addition.name] := by
  rw [mem_first_names] at new
  have stays : [addition.name].removeAll (history.map Addition.name) = [addition.name] := by
    simpa [List.removeAll] using new
  rw [firstNames, List.map_append, List.eraseDups_append, List.map_singleton, stays]
  rfl

theorem first_names_nodup (history : List Addition) : (firstNames history).Nodup := by
  induction history using List.reverseRecOn with
  | nil => simp [firstNames]
  | append_singleton history addition ih =>
      by_cases known : addition.name ∈ firstNames history
      · rw [first_names_known known]
        exact ih
      · rw [first_names_new known, List.nodup_append]
        refine ⟨ih, by simp, ?_⟩
        intro name added other own
        rw [List.mem_singleton.mp own]
        intro same
        exact known (same ▸ added)

theorem last_for_append (name : String) (history : List Addition) (addition : Addition) :
    lastFor? name (history ++ [addition]) =
      if addition.name = name then some addition else lastFor? name history := by
  unfold lastFor?
  by_cases own : addition.name = name <;> simp [own]

theorem last_for_name {name : String} {history : List Addition} {addition : Addition}
    (last : lastFor? name history = some addition) : addition.name = name := by
  have member := List.mem_of_getLast? last
  simpa using (List.mem_filter.mp member).2

theorem last_for_exists {name : String} {history : List Addition}
    (added : name ∈ firstNames history) : ∃ addition, lastFor? name history = some addition := by
  obtain ⟨addition, member, own⟩ := List.mem_map.mp (mem_first_names.mp added)
  have found : addition ∈ history.filter fun addition => addition.name = name :=
    List.mem_filter.mpr ⟨member, by simpa using own⟩
  exact ⟨_, List.getLast?_eq_some_getLast (List.ne_nil_of_mem found)⟩

theorem latest_names (history : List Addition) :
    (latest history).map Addition.name = firstNames history := by
  have each : ∀ name ∈ firstNames history,
      (lastFor? name history).map Addition.name = some name := by
    intro name added
    obtain ⟨addition, last⟩ := last_for_exists added
    rw [last, Option.map_some, last_for_name last]
  rw [latest, List.map_filterMap, List.filterMap_congr each, List.filterMap_some]

def Addition.replacing (addition earlier : Addition) : Addition :=
  if earlier.name = addition.name then addition else earlier

theorem latest_known {history : List Addition} {addition : Addition}
    (known : addition.name ∈ firstNames history) :
    latest (history ++ [addition]) = (latest history).map addition.replacing := by
  rw [latest, first_names_known known, latest, List.map_filterMap]
  apply List.filterMap_congr
  intro name added
  obtain ⟨earlier, last⟩ := last_for_exists added
  rw [last_for_append, last, Option.map_some, Addition.replacing, last_for_name last]
  by_cases own : addition.name = name
  · rw [if_pos own, if_pos own.symm]
  · rw [if_neg own, if_neg (Ne.symm own)]

theorem latest_new {history : List Addition} {addition : Addition}
    (new : addition.name ∉ firstNames history) :
    latest (history ++ [addition]) = latest history ++ [addition] := by
  have before : ∀ name ∈ firstNames history,
      lastFor? name (history ++ [addition]) = lastFor? name history := by
    intro name added
    rw [last_for_append, if_neg]
    intro own
    exact new (own ▸ added)
  rw [latest, first_names_new new, List.filterMap_append, List.filterMap_congr before]
  simp [latest, last_for_append]

theorem place_new {entry : Entry} {entries : List Entry}
    (new : ∀ other ∈ entries, other.tree.name ≠ entry.tree.name) :
    place entry entries = entries ++ [entry] := by
  induction entries with
  | nil => rfl
  | cons first rest ih =>
      have apart := new first (by simp)
      simp only [place, if_neg apart, ih fun other member => new other (by simp [member]),
        List.cons_append]

/-- Where every name occurs once, only the entry of that name changes. -/
theorem place_known {entry : Entry} {entries : List Entry}
    (distinct : (entries.map fun entry => entry.tree.name).Nodup)
    (known : entry.tree.name ∈ entries.map fun entry => entry.tree.name) :
    place entry entries =
      entries.map fun other => if other.tree.name = entry.tree.name then entry else other := by
  induction entries with
  | nil => cases known
  | cons first rest ih =>
      simp only [List.map_cons, List.nodup_cons] at distinct
      by_cases own : first.tree.name = entry.tree.name
      -- found: the rest has other names, so it is left alone on both sides
      · have kept : ∀ other ∈ rest,
            (if other.tree.name = entry.tree.name then entry else other) = id other := by
          intro other member
          rw [if_neg]
          · rfl
          · intro same
            exact distinct.1 (List.mem_map.mpr ⟨other, member, same.trans own.symm⟩)
        rw [place, if_pos own, List.map_cons, if_pos own, List.map_congr_left kept, List.map_id]
      · have later : entry.tree.name ∈ rest.map fun entry => entry.tree.name := by
          simpa [Ne.symm own] using known
        simp [place, own, ih distinct.2 later]

theorem after_append (options : Options) (history : List Addition) (addition : Addition) :
    after options (history ++ [addition]) = addition.perform (after options history) := by
  simp [after]

theorem perform_eq (bundle : Bundle) (addition : Addition) :
    addition.perform bundle = ⟨bundle.options, place addition.entry bundle.entries⟩ := by
  cases addition <;> rfl

theorem entry_names (additions : List Addition) :
    (additions.map Addition.entry).map (fun entry => entry.tree.name) =
      additions.map Addition.name := by
  rw [List.map_map]
  rfl

/-- One call: the template goes to its earlier place if there is one, and to the end if not. -/
theorem place_latest (history : List Addition) (addition : Addition) :
    place addition.entry ((latest history).map Addition.entry) =
      (latest (history ++ [addition])).map Addition.entry := by
  have names := (entry_names (latest history)).trans (latest_names history)
  by_cases known : addition.name ∈ firstNames history
  · have replaced : ∀ earlier ∈ latest history,
        (if earlier.entry.tree.name = addition.entry.tree.name then addition.entry
          else earlier.entry) = (addition.replacing earlier).entry := by
      intro earlier _
      exact (apply_ite Addition.entry _ _ _).symm
    rw [latest_known known, place_known (by rw [names]; exact first_names_nodup history)
      (by rw [names]; exact known), List.map_map, List.map_map]
    exact List.map_congr_left replaced
  · rw [latest_new known, place_new, List.map_append, List.map_singleton]
    intro other member same
    apply known
    rw [← names]
    exact List.mem_map.mpr ⟨other, member, same⟩

/-- A whole history: the bundle holds the last call for each name. -/
theorem after_eq (options : Options) (history : List Addition) :
    after options history = ⟨options, (latest history).map Addition.entry⟩ := by
  induction history using List.reverseRecOn with
  | nil => rfl
  | append_singleton history addition ih => rw [after_append, perform_eq, ih, place_latest]

theorem names_after (options : Options) (history : List Addition) :
    (after options history).names = firstNames history := by
  rw [names, after_eq, entry_names, latest_names]

theorem latest_of_distinct {history : List Addition}
    (distinct : (history.map Addition.name).Nodup) : latest history = history := by
  induction history using List.reverseRecOn with
  | nil => rfl
  | append_singleton history addition ih =>
      rw [List.map_append, List.nodup_append] at distinct
      rw [latest_new, ih distinct.1]
      intro known
      exact distinct.2.2 _ (mem_first_names.mp known) addition.name (by simp) rfl

theorem after_latest (options : Options) (history : List Addition) :
    after options (latest history) = after options history := by
  have distinct : ((latest history).map Addition.name).Nodup := by
    rw [latest_names]
    exact first_names_nodup history
  rw [after_eq, after_eq, latest_of_distinct distinct]

/-- The names of a bundle stand once each, in the order in which they were first added, and it
compiles like the bundle with only the last version of each template. -/
theorem bundle_keeps_latest (options : Options) (history : List Addition) :
    (after options history).names = firstNames history ∧
      (after options history).names.Nodup ∧
      ∀ root, (after options history).compile root =
        (after options (latest history)).compile root := by
  refine ⟨names_after options history, ?_, ?_⟩
  · rw [names_after]
    exact first_names_nodup history
  · intro root
    rw [after_latest]

end TemplateScript.Bundle
