import Overlay.Placeholder

namespace Overlay.Placeholder

/-- The first of the two equations of the splitter: at an opening sign that is
closed by a brace it takes a whole reference and goes on behind it. -/
theorem pieces_cons_of_some {c : Char} {rest name after : List Char}
    (found : reference? (c :: rest) = some (name, after)) :
    pieces (c :: rest) = .reference (String.ofList name) :: pieces after := by
  rw [pieces]
  split
  · rename_i same
    cases found.symm.trans same
    rfl
  · rename_i absent
    cases found.symm.trans absent

/-- The second equation: any other character is a piece by itself, an opening
sign that is never closed included. -/
theorem pieces_cons_of_none {c : Char} {rest : List Char} (absent : reference? (c :: rest) = none) :
    pieces (c :: rest) = .char c :: pieces rest := by
  rw [pieces]
  split
  · rename_i found
    cases absent.symm.trans found
  · rfl

/-- A text has no names exactly if none of its pieces is a reference. Most
proofs use the one side and are asked for the other. -/
theorem names_eq_nil_iff {text : String} :
    names text = [] ↔ ∀ name, Piece.reference name ∉ pieces text.toList := by
  rw [names, List.filterMap_eq_nil_iff]
  constructor
  · intro noNames name member
    cases noNames _ member
  · intro noReference piece member
    cases piece with
    | char c => rfl
    | reference name => exact absurd member (noReference name)

theorem reference?_eq_none {text : List Char} (absent : '$' ∉ text) : reference? text = none := by
  cases found : reference? text with
  | none => rfl
  | some pair =>
    rw [(eq_of_reference? found).1] at absent
    exact absurd List.mem_cons_self absent

theorem names_eq_nil_of_not_mem {text : String} (absent : '$' ∉ text.toList) : names text = [] := by
  refine names_eq_nil_iff.mpr fun name => ?_
  generalize text.toList = chars at absent ⊢
  induction chars with
  | nil =>
    rw [pieces]
    exact List.not_mem_nil
  | cons c rest ih =>
    rw [pieces_cons_of_none (reference?_eq_none absent)]
    intro member
    rcases List.mem_cons.mp member with same | later
    · cases same
    · exact ih (List.not_mem_of_not_mem_cons absent) later

/-- A text without references is split into its characters. -/
theorem pieces_eq_map_char {text : List Char} (noReference : ∀ name, Piece.reference name ∉ pieces text) :
    pieces text = text.map Piece.char := by
  induction text with
  | nil => rw [pieces, List.map_nil]
  | cons c rest ih =>
    cases found : reference? (c :: rest) with
    | some pair =>
      rw [pieces_cons_of_some found] at noReference
      exact absurd List.mem_cons_self (noReference _)
    | none =>
      rw [pieces_cons_of_none found] at noReference ⊢
      rw [List.map_cons, ih fun name member => noReference name (List.mem_cons_of_mem _ member)]

/-- Characters are copied without a look at the environment, and without a
notice. -/
theorem expand_map_char (env : Environment) (text : List Char) : expand env (text.map Piece.char) = pure text := by
  induction text with
  | nil => rfl
  | cons c rest ih =>
    rw [List.map_cons, expand, ih]
    rfl

/-- A text without references is substituted by itself in every environment;
nothing is told. -/
theorem substitute_of_names_eq_nil (env : Environment) {text : String} (noNames : names text = []) :
    substitute env text = pure text := by
  rw [substitute, pieces_eq_map_char (names_eq_nil_iff.mp noNames), expand_map_char, Run.pure_eq, Run.ok_bind,
    String.ofList_toList]
  rfl

end Overlay.Placeholder
