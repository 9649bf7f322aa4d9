import Overlay.Proofs.FixedKeys

namespace Overlay

open Yaml (Tree)

namespace Yaml.Tree

mutual

/-- The variables that the strings and the string keys of a tree refer to, in
their order. Tags do not count, and what stands inside a key that is a
collection is no string of the tree. -/
def references : Tree → List String
  | .string text => Placeholder.names text
  | .sequence items => referencesOfItems items
  | .mapping entries => referencesOfEntries entries
  | .tagged _ content => content.references
  | _ => []

def referencesOfItems : List Tree → List String
  | [] => []
  | item :: rest => item.references ++ referencesOfItems rest

def referencesOfEntries : List (Tree × Tree) → List String
  | [] => []
  | (key, value) :: rest => key.keyReferences ++ (value.references ++ referencesOfEntries rest)

end

end Yaml.Tree

namespace Conversion

theorem reads_values {items : List Tree} (each : ∀ item ∈ items, Reads item.references fun env => value env item) :
    Reads (Tree.referencesOfItems items) fun env => values env items := by
  induction items with
  | nil => exact reads_pure []
  | cons item rest ih =>
    obtain ⟨here, later⟩ := List.forall_mem_cons.mp each
    simp only [values]
    exact here.bind fun first => (ih later).map (first :: ·)

/-- The entries of a mapping look up their key and then their value, whatever
stands in the map already. -/
theorem reads_arguments {entries : List (Tree × Tree)}
    (each : ∀ entry ∈ entries, Reads entry.2.references fun env => value env entry.2) (earlier : Arguments) :
    Reads (Tree.referencesOfEntries entries) fun env => arguments env earlier entries := by
  induction entries generalizing earlier with
  | nil => exact reads_pure earlier
  | cons entry rest ih =>
    obtain ⟨key, item⟩ := entry
    obtain ⟨here, later⟩ := List.forall_mem_cons.mp each
    simp only [arguments]
    exact (reads_keyName key).bind fun name => here.bind fun first => ih later (earlier.insert name first)

/-- Every string is expanded, whatever its place is, and nothing else looks at
the environment. -/
theorem reads_value (tree : Tree) : Reads tree.references fun env => value env tree := by
  induction tree using Tree.memberInduction with
  | integer n =>
    simp only [value]
    refine reads_nothing fun name failed => ?_
    split at failed <;> cases failed
  | string text =>
    simp only [value]
    exact (Placeholder.reads_substitute text).map Value.string
  | sequence items ih =>
    simp only [value]
    exact (reads_values ih).map Value.sequence
  | mapping entries ih =>
    simp only [value]
    exact (reads_arguments (fun entry member => (ih entry member).2) []).map Value.mapping
  | tagged _ _ ih =>
    simp only [value]
    exact ih
  | _ => exact reads_pure _

end Conversion

namespace Loading

/-- The variables that a text refers to when its merge keys are carried out. -/
def variablesOf (text : String) : List String :=
  match tree text with
  | .ok document => document.references
  | .error _ => []

theorem reads_topLevel (origin : String) (value : Value) : Reads [] fun _ => topLevel origin value :=
  reads_nothing fun name => by cases value <;> nofun

/-- Reading a document looks up exactly the names that stand in it after its
merge keys are expanded, and nothing if the document cannot be read. -/
theorem reads_ofText (origin text : String) : Reads (variablesOf text) fun env => ofText env origin text := by
  unfold variablesOf
  cases loaded : tree text with
  | error fault =>
    simp only [ofText_of_error loaded]
    exact reads_nothing nofun
  | ok document =>
    simp only [ofText_of_ok loaded]
    have read := (Conversion.reads_value document).bind fun value => reads_topLevel origin value
    rwa [List.append_nil] at read

/-- A text is parsed by the values of the variables that it refers to:
environments that agree on them cannot be told apart, all of them are set where
it succeeds, and one that is missing is one of them. So more variables change
nothing about a success. -/
theorem parseArguments_variablesOf (text : String) (env : Environment) :
    (∀ other : Environment, (∀ name ∈ variablesOf text, env name = other name) →
      parseArguments env text = parseArguments other text) ∧
    (∀ result, (parseArguments env text).outcome = .ok result →
      (∀ name ∈ variablesOf text, (env name).isSome = true) ∧
      ∀ extended : Environment, (∀ name value, env name = some value → extended name = some value) →
        (parseArguments extended text).outcome = .ok result) ∧
    ∀ name, (parseArguments env text).outcome = .error (.missingVariable name) →
      name ∈ variablesOf text ∧ env name = none := by
  have reads : Reads (variablesOf text) fun env => parseArguments env text := reads_ofText "<string>" text
  refine ⟨fun other => reads.congr, fun result parsed => ?_, fun name => reads.missing⟩
  have allSet := reads.isSet parsed
  refine ⟨allSet, fun extended keeps => ?_⟩
  have agree : ∀ name ∈ variablesOf text, env name = extended name := by
    intro name member
    obtain ⟨value, atName⟩ := Option.isSome_iff_exists.mp (allSet name member)
    rw [atName, keeps name value atName]
  rw [← parsed, reads.congr agree]

/-- A text that refers to a variable in a key and to another one behind a tag.
-/
def taggedReference : String := "$\x7bA\x7d:\n- !t $\x7bB\x7d\n"

theorem parseArguments_taggedReference_of_more :
    (parseArguments (Entries.get? [("C", "c"), ("A", "k"), ("B", "v")]) taggedReference).outcome =
      .ok [("k", .sequence [.string "v"])] := by
  have parsed : (parseArguments (Entries.get? [("A", "k"), ("B", "v")]) taggedReference).outcome =
      .ok [("k", .sequence [.string "v"])] := by cbv
  refine ((parseArguments_variablesOf taggedReference _).2.1 _ parsed).2 _ fun name value atName => ?_
  have other : "C" ≠ name := by
    rintro rfl
    cases atName
  rw [Entries.get?_cons, if_neg other, atName]

end Loading

end Overlay
