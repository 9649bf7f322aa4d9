import Mathlib
import Overlay.Proofs.PlaceholderNames
import Overlay.Proofs.TextParts

namespace Overlay.Conversion

open Yaml (Tree)

/-- The trees that give a text a type: scalars without tag, an integer only if a
value can hold it, and null only if something is written. -/
inductive Types (text : String) : Tree → Prop
  | null : (∃ c ∈ text.toList, isBlank c = false) → Types text .null
  | bool (value : Bool) : Types text (.bool value)
  | integer {value : Int} : -0x8000000000000000 ≤ value → value < 0x8000000000000000 → Types text (.integer value)
  | float (value : Double) : Types text (.float value)
  | string (content : String) : Types text (.string content)

/-- The value of a scalar in which nothing is replaced. -/
def literal : Tree → Value
  | .bool value => .bool value
  | .integer value => .integer (Int64.ofInt value)
  | .float value => .float value
  | .string content => .string content
  | _ => .null

/-- A value with the references in its text replaced. What is no text stays as
it is. -/
def expandText (env : Environment) : Value → Except Failure Value
  | .string text => (Placeholder.substitute env text).outcome.map .string
  | value => .ok value

theorem inRange_iff {n : Int} : inRange n = true ↔ -0x8000000000000000 ≤ n ∧ n < 0x8000000000000000 := by
  rw [inRange, Bool.and_eq_true, decide_eq_true_eq, decide_eq_true_eq]

variable {text : String} {tree : Tree}

theorem exists_notBlank_iff : (∃ c ∈ text.toList, isBlank c = false) ↔ Text.trim text.toList ≠ [] := by
  rw [ne_eq, Text.trim_eq_nil_iff]
  simp

/-- Where the document types a scalar, its conversion is the literal value with
its references filled in. -/
theorem Types.outcome_value (types : Types text tree) (env : Environment) :
    (value env tree).outcome = expandText env (literal tree) := by
  cases types with
  | null | bool | float => rfl
  | integer low high =>
    rw [value, if_pos (inRange_iff.mpr ⟨low, high⟩)]
    rfl
  | string content =>
    rw [value, Run.outcome_bind, literal, expandText]
    cases (Placeholder.substitute env content).outcome <;> rfl

/-- Where the document types a scalar, an assignment gives the same literal
value, with its references left as they stand. -/
theorem Types.scalar_eq (types : Types text tree) (read : Tree.read text = .ok tree) : scalar text = literal tree := by
  rw [scalar, read]
  cases types with
  | null written => exact if_neg (exists_notBlank_iff.mp written)
  | bool | float | string => rfl
  | integer low high => exact if_pos (inRange_iff.mpr ⟨low, high⟩)

/-- A text that is given no type stands for itself. -/
theorem scalar_of_not_types (untyped : ∀ tree, Tree.read text = .ok tree → ¬ Types text tree) :
    scalar text = .string text := by
  unfold scalar
  split
  · rename_i read
    refine if_pos (not_not.mp fun written => ?_)
    exact untyped _ read (.null (exists_notBlank_iff.mpr written))
  · exact absurd (.bool _) (untyped _ (by assumption))
  · rename_i read
    refine if_neg fun inside => ?_
    exact untyped _ read (.integer (inRange_iff.mp inside).1 (inRange_iff.mp inside).2)
  · exact absurd (.float _) (untyped _ (by assumption))
  · exact absurd (.string _) (untyped _ (by assumption))
  · rfl

/-- Every text is typed as the document types it or kept as the text it is;
there is no third way. -/
theorem scalar_cases (text : String) :
    (∃ tree, Tree.read text = .ok tree ∧ Types text tree ∧ scalar text = literal tree) ∨
      scalar text = .string text := by
  by_cases typed : ∃ tree, Tree.read text = .ok tree ∧ Types text tree
  · obtain ⟨tree, read, types⟩ := typed
    exact Or.inl ⟨tree, read, types, types.scalar_eq read⟩
  · exact Or.inr (scalar_of_not_types fun tree read types => typed ⟨tree, read, types⟩)

/-- An assignment never gives a collection: a text that reads as a sequence or a
mapping is kept as text. -/
theorem kind_scalar (text : String) : (scalar text).kind ≠ .sequence ∧ (scalar text).kind ≠ .mapping := by
  rcases scalar_cases text with ⟨tree, _, types, same⟩ | same
  · rw [same]
    cases types <;> exact ⟨nofun, nofun⟩
  · rw [same]
    exact ⟨nofun, nofun⟩

theorem eq_or_read_of_scalar {content : String} (isText : scalar text = .string content) :
    content = text ∨ Tree.read text = .ok (.string content) := by
  rcases scalar_cases text with ⟨tree, read, types, same⟩ | same
  · rw [isText] at same
    cases types <;> cases same
    exact Or.inr read
  · exact Or.inl (Value.string.inj (isText.symm.trans same))

/-- A text on a command line is typed as the scalar that it reads as is typed in
a document, but for the references in it, which stay as they are written: where
every variable stands for the reference to it, both come to the same. Every
other text stands for itself. -/
theorem scalar_agrees (text : String) :
    (∀ tree, Tree.read text = .ok tree → Types text tree →
      (value Placeholder.ofReferences tree).outcome = .ok (scalar text) ∧
      ∀ env, (value env tree).outcome = expandText env (scalar text)) ∧
    (∀ content, (Placeholder.substitute Placeholder.ofReferences content).outcome = .ok content) ∧
    ((∀ tree, Tree.read text = .ok tree → ¬ Types text tree) → scalar text = .string text) ∧
    (∀ content, scalar text = .string content → content = text ∨ Tree.read text = .ok (.string content)) ∧
    (scalar text).kind ≠ .sequence ∧ (scalar text).kind ≠ .mapping := by
  have asWritten : ∀ value, expandText Placeholder.ofReferences value = .ok value := by
    intro value
    cases value with
    | string content => rw [expandText, Placeholder.outcome_substitute_ofReferences, Except.map]
    | _ => rfl
  refine ⟨fun tree read types => ?_, Placeholder.outcome_substitute_ofReferences, scalar_of_not_types,
    fun _ => eq_or_read_of_scalar, kind_scalar text⟩
  have converts : ∀ env, (value env tree).outcome = expandText env (scalar text) := by
    rw [types.scalar_eq read]
    exact types.outcome_value
  exact ⟨(converts _).trans (asWritten _), converts⟩

theorem read_hexadecimal : Tree.read "0x1F" = .ok (.integer 31) := by cbv

theorem read_reference : Tree.read "$\x7bT\x7d " = .ok (.string "$\x7bT\x7d") := by cbv

theorem read_aboveRange : Tree.read "9223372036854775808" = .ok (.integer 9223372036854775808) := by
  have reads : (Tree.read "9223372036854775808").toOption.any (Tree.same (.integer 9223372036854775808)) = true := by
    decide +kernel
  cases found : Tree.read "9223372036854775808" with
  | error fault =>
    rw [found] at reads
    cases reads
  | ok tree =>
    rw [found, Except.toOption, Option.any_some] at reads
    cases tree with
    | integer value =>
      rw [Tree.same, beq_iff_eq] at reads
      rw [← reads]
    | _ => cases reads

/-- An integer in another base, a reference with a blank behind it, and the
first integer that no value can hold. -/
theorem scalar_agrees_aboveRange :
    (value Placeholder.ofReferences (.integer 31)).outcome = .ok (scalar "0x1F") ∧
      (value Placeholder.ofReferences (.string "$\x7bT\x7d")).outcome = .ok (scalar "$\x7bT\x7d ") ∧
      scalar "9223372036854775808" = .string "9223372036854775808" := by
  refine ⟨((scalar_agrees "0x1F").1 _ read_hexadecimal (.integer (by decide) (by decide))).1,
    ((scalar_agrees "$\x7bT\x7d ").1 _ read_reference (.string _)).1, ?_⟩
  refine (scalar_agrees "9223372036854775808").2.2.1 fun tree read types => ?_
  cases read_aboveRange.symm.trans read
  cases types with
  | integer low high => exact absurd high (by decide)

end Overlay.Conversion
