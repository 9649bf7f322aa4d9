import Overlay.Proofs.DocumentParts
import Overlay.Proofs.FixedKeys
import Overlay.Proofs.ValueFolds

namespace Overlay

open Yaml (Tree)

namespace Value

/-- The value with every string emptied: its names, its kinds, its nesting and
all other leaves are left. -/
def withoutTexts : Value → Value :=
  mapLeaves fun
    | .string _ => .string ""
    | leaf => leaf

theorem kind_withoutTexts (value : Value) : value.withoutTexts.kind = value.kind := by
  cases value <;> rfl

/-- Values that are equal up to the contents of their strings are of one kind,
which is all that a merge asks of them. -/
theorem kind_eq_of_withoutTexts {first second : Value} (alike : first.withoutTexts = second.withoutTexts) :
    first.kind = second.kind := by
  rw [← kind_withoutTexts, alike, kind_withoutTexts]

/-- Such values are alike at the top and, member by member, below it. -/
theorem alikeAtTop_of_withoutTexts {first second : Value} (alike : first.withoutTexts = second.withoutTexts) :
    AlikeAtTop (fun v w => v.withoutTexts = w.withoutTexts) first second := by
  have sameKind := kind_eq_of_withoutTexts alike
  by_cases isMapping : first.kind = .mapping
  · obtain ⟨entries, rfl⟩ := kind_eq_mapping_iff.mp isMapping
    obtain ⟨others, rfl⟩ := kind_eq_mapping_iff.mp (sameKind.symm.trans isMapping)
    exact .mapping (mapLeaves_mapping_eq_iff.mp alike)
  · exact .other sameKind isMapping

end Value

variable {env other : Environment}

/-- Where keys are fixed, environments that set the same variables show in the
strings of a value alone. -/
theorem Conversion.value_agree_of_fixed (same : SameVariables env other) {tree : Tree}
    (fixed : tree.hasFixedKeys = true) :
    Run.Agree (fun v w => v.withoutTexts = w.withoutTexts) (value env tree) (value other tree) := by
  induction tree using Tree.memberInduction with
  | null => exact Run.agree_pure rfl
  | bool _ => exact Run.agree_pure rfl
  | integer n =>
    rw [value, value]
    exact (Run.agree_self _).imp fun _ _ => congrArg Value.withoutTexts
  | float _ => exact Run.agree_pure rfl
  | string text => exact (Placeholder.substitute_agree same text).bind fun _ _ _ => Run.agree_pure rfl
  | sequence items ih =>
    rw [value, value]
    have each := fun item member => ih item member (Tree.hasFixedKeys_of_mem_items fixed item member)
    exact (values_agree each).bind fun _ _ alike => Run.agree_pure (Value.mapLeaves_sequence_eq_iff.mpr alike)
  | mapping entries ih =>
    rw [value, value]
    have parts := Tree.hasFixedKeys_of_mem_entries fixed
    have each := fun entry member => (ih entry member).2 (parts entry member).2
    exact (arguments_agree_of_fixed (fun entry member => (parts entry member).1) each).bind fun _ _ alike =>
      Run.agree_pure (Value.mapLeaves_mapping_eq_iff.mpr alike)
  | tagged _ _ ih =>
    rw [value, value]
    exact ih fixed

/-- Parses a text and merges its arguments over a baseline. -/
def parseOver (env : Environment) (text : String) (baseline : Arguments) (ignoreUnknown : Bool) : Run Arguments := do
  let file ← parseArguments env text
  merge file baseline ignoreUnknown

namespace Loading

/-- Where a string of a document has a value, it is a string. -/
theorem Part.string_of_parsed {text string : String} {document : Tree} {file : Arguments} {found : Value}
    (read : Tree.read text = .ok document) (parsed : (parseArguments env text).outcome = .ok file)
    (part : Part env (.string string) found document (.mapping file)) :
    ∃ expanded, (Placeholder.substitute env string).outcome = .ok expanded ∧ found = .string expanded := by
  obtain ⟨again, readAgain, gives⟩ := outcome_ofText_eq_ok_iff.mp parsed
  cases read.symm.trans readAgain
  rcases gives with gives | ⟨null, _⟩
  · exact gives_string_iff.mp (part.gives gives)
  · obtain ⟨_, _, impossible⟩ := gives_string_iff.mp (part.gives_null null)
    cases impossible

/-- Without references in keys the values of variables decide about nothing but
the contents of strings: not about success, failures, names, kinds, nesting or
other leaves. Strings stay strings, whatever they are expanded to. -/
theorem parseOver_alike (same : SameVariables env other) {text : String}
    (fixed : ∀ document, tree text = .ok document → document.hasFixedKeys = true) (baseline : Arguments)
    (ignoreUnknown : Bool) :
    EndAlike (fun first second => (Value.mapping first).withoutTexts = (Value.mapping second).withoutTexts)
      (parseOver env text baseline ignoreUnknown).outcome (parseOver other text baseline ignoreUnknown).outcome ∧
    ∀ document file string found, Tree.read text = .ok document → (parseArguments env text).outcome = .ok file →
      Part env (.string string) found document (.mapping file) →
        ∃ expanded, (Placeholder.substitute env string).outcome = .ok expanded ∧ found = .string expanded := by
  have parsed : Run.Agree (Entries.Related fun v w => v.withoutTexts = w.withoutTexts)
      (parseArguments env text) (parseArguments other text) :=
    ofText_agree fun document loaded =>
      (Conversion.value_agree_of_fixed same (fixed document loaded)).imp fun _ _ => Value.alikeAtTop_of_withoutTexts
  have merged := parsed.bind fun _ _ alike =>
    Merge.merge_agree alike (fun _ => rfl) (fun _ _ => Value.kind_eq_of_withoutTexts) baseline ignoreUnknown
  refine ⟨merged.outcome.imp fun _ _ => Value.mapLeaves_mapping_eq_iff.mpr, ?_⟩
  exact fun _ _ _ _ => Part.string_of_parsed

/-- A text that looks like a number and one that looks like null. -/
theorem parseOver_alike_number_null : ∃ file,
    (parseOver (Environment.single "T" "~") reference [("a", .string "")] false).outcome = .ok file ∧
      (Value.mapping file).withoutTexts = .mapping [("a", .string "")] := by
  have fixed : ∀ document, tree reference = .ok document → document.hasFixedKeys = true := by
    intro document loaded
    cases tree_reference.symm.trans loaded
    cbv
  have alike := (parseOver_alike (sameVariables_single "T" "42" "~") fixed [("a", .string "")] false).1
  have number : (parseOver (Environment.single "T" "42") reference [("a", .string "")] false).outcome =
      .ok [("a", .string "42")] := by cbv
  rw [number] at alike
  generalize (parseOver (Environment.single "T" "~") reference [("a", .string "")] false).outcome = outcome at alike ⊢
  cases alike with
  | success sameShape => exact ⟨_, rfl, sameShape.symm⟩

end Loading

end Overlay
