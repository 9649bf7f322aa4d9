import Overlay.Loading
import Overlay.Proofs.RelatedArguments
import Overlay.Proofs.SameVariables
import Overlay.Proofs.Success

namespace Overlay

open Yaml (Tree)

/-- The kind of the value that a tree stands for. Tags do not count. -/
def Yaml.Tree.kind : Tree → Kind
  | .null => .null
  | .bool _ => .bool
  | .integer _ => .integer
  | .float _ => .float
  | .string _ => .string
  | .sequence _ => .sequence
  | .mapping _ => .mapping
  | .tagged _ content => content.kind

/-- A conversion keeps the kind that a tree has under its tags. So the shape of
a document can be told from its tree. -/
theorem Conversion.kind_of_value {env : Environment} {tree : Tree} {result : Value}
    (converts : (value env tree).outcome = .ok result) : result.kind = tree.kind := by
  induction tree using Tree.memberInduction with
  | tagged _ _ ih => exact ih (by rwa [value] at converts)
  | integer n =>
    rw [value] at converts
    split at converts <;> cases converts
    rfl
  | string | sequence | mapping =>
    rw [value, Run.outcome_bind_eq_ok_iff] at converts
    obtain ⟨_, _, same⟩ := converts
    cases same
    rfl
  | _ =>
    cases converts
    rfl

/-- Two mappings with the same names and related values, or two other values of
one kind. -/
inductive Value.AlikeAtTop (r : Value → Value → Prop) : Value → Value → Prop
  | mapping {first second : Arguments} : Entries.Related r first second →
      AlikeAtTop r (.mapping first) (.mapping second)
  | other {first second : Value} : first.kind = second.kind → first.kind ≠ .mapping → AlikeAtTop r first second

theorem Value.AlikeAtTop.of_mapping?_eq_none {r : Value → Value → Prop} {first second : Value}
    (noMapping : first.mapping? = none) (sameKind : first.kind = second.kind) : AlikeAtTop r first second := by
  refine .other sameKind fun isMapping => ?_
  obtain ⟨entries, rfl⟩ := kind_eq_mapping_iff.mp isMapping
  cases noMapping

namespace Loading

/-- The arguments that the value of a whole text stands for. -/
def topLevel (origin : String) : Value → Run Arguments
  | .mapping arguments => do
    Run.note (.parsed arguments.length origin)
    return arguments
  | .null => pure []
  | other => Run.fail (.invalidDocument (.topLevel origin other.kind))

theorem ofText_of_ok {env : Environment} {origin text : String} {document : Tree} (loaded : tree text = .ok document) :
    ofText env origin text = Conversion.value env document >>= topLevel origin := by
  rw [ofText, loaded]
  refine congrArg (Conversion.value env document >>= ·) (funext fun value => ?_)
  cases value <;> rfl

/-- A text that cannot be read or merged fails as such, and with its origin. -/
theorem ofText_of_error {env : Environment} {origin text : String} {fault : Yaml.Fault}
    (failed : tree text = .error fault) : ofText env origin text = Run.fail (.malformedYaml origin fault) := by
  rw [ofText, failed]

/-- Whatever is no mapping at the top level is treated by its kind alone. -/
theorem topLevel_of_kind {origin : String} {first second : Value} (sameKind : first.kind = second.kind)
    (noMapping : first.kind ≠ .mapping) : topLevel origin first = topLevel origin second := by
  cases second with
  | mapping arguments => exact absurd sameKind noMapping
  | _ =>
    cases first <;> cases sameKind
    rfl

variable {env other : Environment} {r : Value → Value → Prop}

theorem topLevel_agree {origin : String} {first second : Value} (alike : Value.AlikeAtTop r first second) :
    Run.Agree (Entries.Related r) (topLevel origin first) (topLevel origin second) := by
  cases alike with
  | mapping related =>
    rw [topLevel, topLevel, related.length_eq]
    exact (Run.agree_note _).bind fun _ _ _ => Run.agree_pure related
  | other sameKind noMapping =>
    rw [topLevel_of_kind sameKind noMapping]
    -- what is no mapping has no arguments at all
    cases second with
    | mapping arguments => exact absurd sameKind noMapping
    | null => exact Run.agree_pure .nil
    | _ => exact Run.agree_fail _

/-- Reading a text in two environments agrees if the conversions of its document
do, up to what counts at the top level. -/
theorem ofText_agree {origin text : String} (converted : ∀ document, tree text = .ok document →
      Run.Agree (Value.AlikeAtTop r) (Conversion.value env document) (Conversion.value other document)) :
    Run.Agree (Entries.Related r) (ofText env origin text) (ofText other origin text) := by
  cases loaded : tree text with
  | error fault =>
    rw [ofText_of_error loaded, ofText_of_error loaded]
    exact Run.agree_fail _
  | ok document =>
    rw [ofText_of_ok loaded, ofText_of_ok loaded]
    exact (converted document loaded).bind fun _ _ alike => topLevel_agree alike

/-- The same for a file. What it contains does not depend on the environment. -/
theorem readArguments_agree {files : Files} {path : String} (converted : ∀ text document,
      files.readText path = .ok text → tree text = .ok document →
      Run.Agree (Value.AlikeAtTop r) (Conversion.value env document) (Conversion.value other document)) :
    Run.Agree (Entries.Related r) (readArguments files env path) (readArguments files other path) := by
  refine (Run.agree_note _).bind fun _ _ _ => ?_
  cases found : files.readText path with
  | error failure => exact Run.agree_fail failure
  | ok text => exact ofText_agree fun document loaded => converted text document found loaded

end Loading

end Overlay
