import Mathlib
import Overlay.Proofs.DocumentParts

namespace Overlay.Loading

open Conversion Yaml

variable {env : Environment} {text : String} {tree : Tree} {result : Arguments}

/-- Under the name of an explicit entry stands its value, unless the last of the
entries of that name that the merge key brings in gives another one. -/
theorem get?_explicit_iff {entries : List (Tree × Tree)} {arguments : Arguments} {key item : Tree} {name : String}
    (read : Tree.read text = .ok tree) (parsed : (parseArguments env text).outcome = .ok result)
    (part : Part env (.mapping entries) (.mapping arguments) tree (.mapping result))
    (member : (key, item) ∈ entries) (explicit : key.isMergeKey = false)
    (named : (keyName env key).outcome = .ok name)
    (alone : ∀ other ∈ entries, other.1.isMergeKey = false → (keyName env other.1).outcome = .ok name →
      other = (key, item)) :
    ∃ value, Gives env item value ∧ (arguments.get? name = some value ↔
      ∀ rival, LastNamed env (Tree.addedEntries entries) name rival → Gives env rival value) := by
  obtain ⟨merged, pairs, success, rfl, each⟩ := part.merged_of_parsed read parsed
  obtain ⟨rfl, _⟩ := Tree.mergeEntries_eq_ok success
  have inExplicit := Tree.mem_explicitEntries_of_mem member explicit
  obtain ⟨pair, _, _, gives⟩ := exists_right_of_forall₂ each (List.mem_append_left _ inExplicit)
  refine ⟨pair.2, gives, ?_, ?_⟩
  · intro found rival last
    exact last.append_left.gives each found
  · intro agree
    -- added entries come behind the explicit ones, so a rival among them is the last of its name
    by_cases rivals : ∃ entry ∈ Tree.addedEntries entries, (keyName env entry.1).outcome = .ok name
    · obtain ⟨rival, last⟩ := exists_lastNamed rivals
      exact (get?_ofList_iff_lastNamed each).mpr ⟨rival, last.append_left, agree rival last⟩
    · obtain ⟨first, last⟩ := exists_lastNamed ⟨(key, item), inExplicit, named⟩
      have same : first = item := by
        obtain ⟨before, other, after, split, atOther, _⟩ := last
        have inFront : (other, first) ∈ Tree.explicitEntries entries :=
          split ▸ List.mem_append_right before List.mem_cons_self
        have apart := part.keysApart read
        have isOther := apart.explicit_not_mergeKey _ inFront
        exact congrArg Prod.snd (alone _ (Tree.mem_explicitEntries inFront) isOther atOther)
      subst same
      have absent : ∀ entry ∈ Tree.addedEntries entries, (keyName env entry.1).outcome ≠ .ok name :=
        fun entry inAdded again => rivals ⟨entry, inAdded, again⟩
      exact (get?_ofList_iff_lastNamed each).mpr ⟨first, last.append_right absent, gives⟩

/-- A mapping with a key that is a number, which merges in another where the
same key is a string. -/
def rivalry : String := "a:\n  1: b\n  <<:\n    \"1\": c\n"

/-- The mapping under the one key of it, with its merge key still to be carried
out. -/
def rivalryEntries : List (Tree × Tree) :=
  [(.integer 1, .string "b"), (.string "<<", .mapping [(.string "1", .string "c")])]

theorem read_rivalry : Tree.read rivalry = .ok (.mapping [(.string "a", .mapping rivalryEntries)]) := by cbv

theorem outcome_parseArguments_rivalry :
    (parseArguments (fun _ => none) rivalry).outcome = .ok [("a", .mapping [("1", .string "c")])] := by cbv

/-- This mapping is a part of the document, and it gives the arguments in which
both entries have the same name. -/
theorem part_rivalry : Part (fun _ => none) (.mapping rivalryEntries) (.mapping [("1", .string "c")])
    (.mapping [(.string "a", .mapping rivalryEntries)]) (.mapping [("a", .mapping [("1", .string "c")])]) := by
  have inside : LastNamed (fun _ => none) [(.string "a", .mapping rivalryEntries)] "a" (.mapping rivalryEntries) :=
    ⟨[], .string "a", [], rfl, by cbv, fun _ member => by cases member⟩
  exact .entry rfl inside rfl .whole

theorem alone_rivalry : ∀ other ∈ rivalryEntries, other.1.isMergeKey = false →
    (keyName (fun _ => none) other.1).outcome = .ok "1" → other = (.integer 1, .string "b") := by
  intro other member explicit _
  rcases List.mem_cons.mp member with same | last
  · exact same
  · cases List.mem_singleton.mp last
    cases explicit

theorem gives_explicit_rivalry : Gives (fun _ => none) (.string "b") (.string "b") :=
  gives_string_iff.mpr ⟨"b", by cbv, rfl⟩

/-- The value that was merged in is found, and not the one that was written. -/
theorem get?_rivalry_ne : Entries.get? [("1", Value.string "c")] "1" ≠ some (.string "b") := by
  intro found
  have same : Value.string "c" = .string "b" := Option.some.inj found
  exact absurd (Value.string.inj same) (by decide)

theorem not_agree_rivalry : ¬ ∀ rival, LastNamed (fun _ => none) (Tree.addedEntries rivalryEntries) "1" rival →
    Gives (fun _ => none) rival (.string "b") := by
  intro agree
  obtain ⟨value, gives, found⟩ := get?_explicit_iff read_rivalry outcome_parseArguments_rivalry part_rivalry
    List.mem_cons_self rfl (by cbv) alone_rivalry
  cases gives.unique gives_explicit_rivalry
  exact get?_rivalry_ne (found.mpr agree)

/-- So a written entry does not always take precedence: read as a statement
about all documents, that fails here. -/
theorem not_precedence_rivalry :
    ¬ ∀ (env : Environment) (text name : String) (tree key item : Tree) (result arguments : Arguments)
        (entries : List (Tree × Tree)), Tree.read text = .ok tree → (parseArguments env text).outcome = .ok result →
        Part env (.mapping entries) (.mapping arguments) tree (.mapping result) →
        (∃ entry ∈ entries, entry.1.isMergeKey = true) → (key, item) ∈ entries → key.isMergeKey = false →
        (keyName env key).outcome = .ok name →
        (∀ other ∈ entries, other.1.isMergeKey = false → (keyName env other.1).outcome = .ok name →
          other = (key, item)) →
        ∃ value, Gives env item value ∧ arguments.get? name = some value := by
  intro precedence
  have mergeKey : ∃ entry ∈ rivalryEntries, entry.1.isMergeKey = true :=
    ⟨_, List.mem_cons_of_mem _ List.mem_cons_self, rfl⟩
  obtain ⟨value, gives, found⟩ := precedence _ _ _ _ _ _ _ _ _ read_rivalry outcome_parseArguments_rivalry part_rivalry
    mergeKey List.mem_cons_self rfl (by cbv) alone_rivalry
  cases gives.unique gives_explicit_rivalry
  exact get?_rivalry_ne found

end Overlay.Loading
