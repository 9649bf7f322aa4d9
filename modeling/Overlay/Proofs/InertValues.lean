import Overlay.Proofs.PlaceholderNames

namespace Overlay.Placeholder

/-- A value that makes no reference, whatever it is put between: it is not
empty, and no opening signs stand in it or are completed at its ends. -/
structure Inert (value : String) : Prop where
  nonempty : value ≠ ""
  inside : ¬ ['$', '{'] <:+: value.toList
  front : ¬ ['{'] <+: value.toList
  back : ¬ ['$'] <:+ value.toList

variable {env : Environment} {text result : List Char} {value : String}

/-- A reference would have to open with two signs inside the value, or with its
last one. -/
theorem Inert.literal (inert : Inert value) (rest : List Char) : Literal value.toList rest := by
  rintro front back whole nonempty ⟨c, tail, opened, _, _⟩
  obtain ⟨d, more, rfl⟩ := List.exists_cons_of_ne_nil nonempty
  obtain ⟨rfl, behind⟩ := List.cons.inj opened
  cases more with
  | nil => exact inert.back ⟨front, whole.symm⟩
  | cons e more =>
    obtain ⟨rfl, _⟩ := List.cons.inj behind
    exact inert.inside ⟨front, more, by rw [whole, List.append_assoc]; rfl⟩

theorem literal_of_unclosed (unclosed : '}' ∉ text) : Literal text [] := by
  rintro front back rfl _ ⟨c, rest, opened, _, closing⟩
  rw [List.append_nil] at opened
  have inBack : '}' ∈ back := by
    rw [opened]
    exact List.mem_cons_of_mem _ (List.mem_cons_of_mem _ (List.mem_cons_of_mem _ closing))
  exact unclosed (List.mem_append_right front inBack)

/-- Without closing braces there are no references. -/
theorem expand_of_unclosed (env : Environment) (unclosed : '}' ∉ text) : expand env (pieces text) = pure text := by
  have whole := (literal_of_unclosed unclosed).pieces_append
  rw [List.append_nil, pieces, List.append_nil] at whole
  rw [whole, expand_map_char]

/-- What a text is expanded to starts with its first character, or with the
value of a variable. -/
theorem expanded_cases {c : Char} {rest : List Char}
    (expands : (expand env (pieces (c :: rest))).outcome = .ok result) :
    (∃ tail, (expand env (pieces rest)).outcome = .ok tail ∧ result = c :: tail) ∨
      ∃ name after value tail, Reference (c :: rest) name after ∧ env (String.ofList name) = some value ∧
        (expand env (pieces after)).outcome = .ok tail ∧ result = value.toList ++ tail := by
  by_cases opens : Opens (c :: rest)
  · obtain ⟨name, after, found⟩ := opens_iff.mp opens
    rw [found.pieces_eq] at expands
    cases atName : env (String.ofList name) with
    | none =>
      rw [outcome_expand_of_none atName] at expands
      cases expands
    | some value =>
      rw [outcome_expand_of_some atName] at expands
      obtain ⟨tail, success, rfl⟩ := exceptMap_eq_ok_iff.mp expands
      exact Or.inr ⟨name, after, value, tail, found, atName, success, rfl⟩
  · rw [pieces_of_not_opens opens, outcome_expand_char] at expands
    obtain ⟨tail, success, rfl⟩ := exceptMap_eq_ok_iff.mp expands
    exact Or.inl ⟨tail, success, rfl⟩

/-- All variables that a text refers to have values that make no reference. -/
def InertIn (env : Environment) (text : List Char) : Prop :=
  ∀ name value, Piece.reference name ∈ pieces text → env name = some value → Inert value

theorem InertIn.of_reference {name after : List Char} (inert : InertIn env text) (found : Reference text name after)
    (atName : env (String.ofList name) = some value) : Inert value :=
  inert _ _ (by rw [found.pieces_eq]; exact List.mem_cons_self) atName

theorem InertIn.after {name after : List Char} (inert : InertIn env text) (found : Reference text name after) :
    InertIn env after := by
  intro other value member
  exact inert other value (by rw [found.pieces_eq]; exact List.mem_cons_of_mem _ member)

theorem InertIn.rest {c : Char} {rest : List Char} (inert : InertIn env (c :: rest)) (closed : ¬ Opens (c :: rest)) :
    InertIn env rest := by
  intro other value member
  exact inert other value (by rw [pieces_of_not_opens closed]; exact List.mem_cons_of_mem _ member)

/-- A brace at the start of an expanded text was there before. -/
theorem exists_of_expanded_brace {tail : List Char} (inert : InertIn env text)
    (expands : (expand env (pieces text)).outcome = .ok ('{' :: tail)) :
    ∃ rest, text = '{' :: rest ∧ (expand env (pieces rest)).outcome = .ok tail := by
  cases text with
  | nil =>
    rw [pieces] at expands
    cases expands
  | cons c rest =>
    rcases expanded_cases expands with ⟨_, success, same⟩ | ⟨name, after, value, _, found, atName, _, same⟩
    · obtain ⟨rfl, rfl⟩ := List.cons.inj same
      exact ⟨rest, rfl, success⟩
    · have harmless := inert.of_reference found atName
      have notEmpty : value.toList ≠ [] := fun empty => harmless.nonempty (String.toList_eq_nil_iff.mp empty)
      obtain ⟨first, others, split⟩ := List.exists_cons_of_ne_nil notEmpty
      rw [split, List.cons_append] at same
      obtain ⟨rfl, _⟩ := List.cons.inj same
      exact absurd ⟨others, split.symm⟩ harmless.front

/-- Where no reference opens, none does when the text behind is expanded. -/
theorem not_opens_expanded {c : Char} {rest tail : List Char} (closed : ¬ Opens (c :: rest))
    (inert : InertIn env rest) (expands : (expand env (pieces rest)).outcome = .ok tail) : ¬ Opens (c :: tail) := by
  rintro ⟨d, more, opened, notClosing, closing⟩
  obtain ⟨rfl, rfl⟩ := List.cons.inj opened
  obtain ⟨inner, rfl, expandsInner⟩ := exists_of_expanded_brace inert expands
  -- behind the opening signs stands a closing brace, or none at all in the rest of the text, which keeps it as it is
  cases inner with
  | nil =>
    rw [pieces] at expandsInner
    cases expandsInner
  | cons e inner =>
    by_cases atOnce : e = '}'
    · subst atOnce
      rcases expanded_cases expandsInner with ⟨_, _, same⟩ | ⟨_, _, _, _, found, _⟩
      · exact notClosing (List.cons.inj same).1
      · exact absurd (List.cons.inj found.whole).1 (by decide)
    · have unclosed : '}' ∉ inner := fun later => closed ⟨e, inner, rfl, atOnce, later⟩
      rw [expand_of_unclosed env (List.not_mem_cons_of_ne_of_not_mem (Ne.symm atOnce) unclosed)] at expandsInner
      have same := Except.ok.inj expandsInner
      exact unclosed ((List.cons.inj same).2 ▸ closing)

/-- What is expanded with inert values has no reference left in it: none within
a value, and none across the end of one. -/
theorem no_reference_expanded (inert : InertIn env text) (expands : (expand env (pieces text)).outcome = .ok result) :
    ∀ name, Piece.reference name ∉ pieces result := by
  induction text using scanInduction generalizing result with
  | nil =>
    rw [pieces] at expands
    cases expands
    intro name
    rw [pieces]
    exact List.not_mem_nil
  | reference text name after found ih =>
    rw [found.pieces_eq] at expands
    cases atName : env (String.ofList name) with
    | none =>
      rw [outcome_expand_of_none atName] at expands
      cases expands
    | some value =>
      rw [outcome_expand_of_some atName] at expands
      obtain ⟨tail, success, rfl⟩ := exceptMap_eq_ok_iff.mp expands
      intro other member
      -- the value is literal in front of any tail, so a reference of the result would be one of the tail
      rw [((inert.of_reference found atName).literal tail).pieces_append, List.mem_append] at member
      rcases member with inValue | behind
      · obtain ⟨_, _, impossible⟩ := List.mem_map.mp inValue
        cases impossible
      · exact ih (inert.after found) success other behind
  | literal c rest closed ih =>
    rw [pieces_of_not_opens closed, outcome_expand_char] at expands
    obtain ⟨tail, success, rfl⟩ := exceptMap_eq_ok_iff.mp expands
    have inertRest := inert.rest closed
    intro other member
    -- an opening that nothing closes in the text is not closed by the values behind it either
    rw [pieces_of_not_opens (not_opens_expanded closed inertRest success)] at member
    rcases List.mem_cons.mp member with impossible | behind
    · cases impossible
    · exact ih inertRest success other behind

/-- Where no value of a variable makes a reference by itself or at its ends, the
substituted text has none, not even one that opens in the text and is closed by
a value, and so every environment leaves it as it is. -/
theorem substitute_inert {env : Environment} {text result : String}
    (inert : ∀ name ∈ names text, ∀ value, env name = some value → Inert value)
    (success : (substitute env text).outcome = .ok result) :
    names result = [] ∧ ∀ other : Environment, substitute other result = pure result := by
  have inertIn : InertIn env text.toList := by
    intro name value member
    exact inert name (by rw [names_eq]; exact List.mem_filterMap.mpr ⟨_, member, rfl⟩) value
  rw [outcome_substitute] at success
  obtain ⟨expanded, expands, rfl⟩ := exceptMap_eq_ok_iff.mp success
  have noNames : names (String.ofList expanded) = [] := by
    rw [names_eq_nil_iff, String.toList_ofList]
    exact no_reference_expanded inertIn expands
  exact ⟨noNames, fun other => substitute_of_names_eq_nil other noNames⟩

/-- A closing brace as a value behind a sign and in front of another, and
opening signs that stay. -/
theorem substitute_inert_closing_brace :
    (∀ name ∈ names "$\x7b\x7d$$\x7bA\x7d\x7b$\x7bB\x7d", ∀ value,
      Entries.get? [("A", "\x7d"), ("B", "v$w")] name = some value → Inert value) ∧
    ∀ other : Environment, substitute other "$\x7b\x7d$\x7d\x7bv$w" = pure "$\x7b\x7d$\x7d\x7bv$w" := by
  have inert : ∀ name ∈ names "$\x7b\x7d$$\x7bA\x7d\x7b$\x7bB\x7d", ∀ value,
      Entries.get? [("A", "\x7d"), ("B", "v$w")] name = some value → Inert value := by
    have both : names "$\x7b\x7d$$\x7bA\x7d\x7b$\x7bB\x7d" = ["A", "B"] := by cbv
    rw [both, List.forall_mem_cons, List.forall_mem_singleton]
    constructor
    · rintro _ ⟨⟩
      exact ⟨by decide, by decide, by decide, by decide⟩
    · rintro _ ⟨⟩
      exact ⟨by decide, by decide, by decide, by decide⟩
  exact ⟨inert, (substitute_inert inert (by cbv)).2⟩

/-- An empty value lets the signs around it meet. -/
example : substitute (Environment.single "A" "") "$$\x7bA\x7d\x7bB\x7d" =
    ⟨[.variableResolved "A"], .ok "$\x7bB\x7d"⟩ := by cbv

end Overlay.Placeholder
