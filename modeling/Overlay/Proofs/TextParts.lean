import Mathlib.Data.List.DropRight
import Overlay.Text.Blank

namespace Overlay

namespace Text

variable {mark : Char} {text core : List Char}

/-- Where a mark is put between a text without it and any other, the text is
split at exactly that place, even if the other has more of them. -/
theorem splitAtFirst_append {before : List Char} (absent : mark ∉ before) (after : List Char) :
    splitAtFirst mark (before ++ mark :: after) = some (before, after) := by
  induction before with
  | nil => rw [List.nil_append, splitAtFirst, if_pos rfl]
  | cons c rest ih =>
    have different : mark ≠ c := List.ne_of_not_mem_cons absent
    rw [List.cons_append, splitAtFirst, if_neg different.symm, ih (List.not_mem_of_not_mem_cons absent),
      Option.map_some]

/-- Only a text without the mark is not split. -/
theorem splitAtFirst_eq_none_iff : splitAtFirst mark text = none ↔ mark ∉ text := by
  constructor
  · intro unsplit member
    obtain ⟨before, after, rfl, absent⟩ := List.eq_append_cons_of_mem member
    rw [splitAtFirst_append absent] at unsplit
    cases unsplit
  · intro absent
    cases split : splitAtFirst mark text with
    | none => rfl
    | some parts =>
      rw [(eq_of_splitAtFirst split).1] at absent
      exact absurd (List.mem_append_right _ List.mem_cons_self) absent

/-- What is left of a text without the white space at its ends. -/
structure Trims (text core : List Char) : Prop where
  around : ∃ left right, text = left ++ core ++ right ∧ ∀ c ∈ left ++ right, isBlank c = true
  front : ∀ c rest, core = c :: rest → isBlank c = false
  back : ∀ c rest, core = rest ++ [c] → isBlank c = false

/-- Trimming gives a core of the text. Together with the next lemmas this makes
the core unique, so that it may be described by its two ends instead of by the
function. -/
theorem trims_trim (text : List Char) : Trims text (trim text) := by
  have ends : trim text = (trimStart text).rdropWhile isBlank := rfl
  refine ⟨⟨text.takeWhile isBlank, (trimStart text).rtakeWhile isBlank, ?_, ?_⟩, ?_, ?_⟩
  · rw [ends, List.append_assoc, List.rdropWhile_append_rtakeWhile, trimStart, List.takeWhile_append_dropWhile]
  · refine List.forall_mem_append.mpr ⟨fun c member => List.mem_takeWhile_imp member, fun c member => ?_⟩
    exact List.mem_takeWhile_imp (List.mem_reverse.mp member)
  · intro c rest first
    obtain ⟨more, whole⟩ := List.rdropWhile_prefix isBlank (trimStart text)
    rw [← ends, first, List.cons_append, trimStart] at whole
    have notBlank := List.head?_dropWhile_not isBlank text
    rwa [← whole] at notBlank
  · intro c rest last
    have nonempty : (trimStart text).rdropWhile isBlank ≠ [] := by
      rw [← ends, last]
      exact List.append_ne_nil_of_right_ne_nil rest (List.cons_ne_nil c [])
    have notBlank := List.rdropWhile_last_not isBlank (trimStart text) nonempty
    simp only [← ends, last, List.getLast_concat] at notBlank
    exact Bool.eq_false_iff.mpr notBlank

theorem trimEnd_append (back : ∀ c rest, core = rest ++ [c] → isBlank c = false) {right : List Char}
    (blank : ∀ c ∈ right, isBlank c = true) : trimEnd (core ++ right) = core := by
  rw [trimEnd, List.reverse_append, List.dropWhile_append_of_pos fun c member => blank c (List.mem_reverse.mp member),
    List.reverse_eq_iff]
  cases reversed : core.reverse with
  | nil => rfl
  | cons c rest =>
    have last : core = rest.reverse ++ [c] := by rw [← List.reverse_cons, ← reversed, List.reverse_reverse]
    exact List.dropWhile_cons_of_neg (Bool.eq_false_iff.mp (back c rest.reverse last))

/-- There is only one core: whoever names one by its ends has found what
trimming gives. -/
theorem Trims.trim_eq (trims : Trims text core) : trim text = core := by
  obtain ⟨⟨left, right, rfl, blank⟩, front, back⟩ := trims
  obtain ⟨blankLeft, blankRight⟩ := List.forall_mem_append.mp blank
  rw [trim, trimStart, List.append_assoc, List.dropWhile_append_of_pos blankLeft]
  cases core with
  | nil =>
    rw [List.nil_append, List.dropWhile_eq_nil_iff.mpr blankRight]
    rfl
  | cons c rest =>
    rw [List.cons_append, List.dropWhile_cons_of_neg (Bool.eq_false_iff.mp (front c rest rfl)), ← List.cons_append,
      trimEnd_append back blankRight]

theorem trims_iff : Trims text core ↔ trim text = core :=
  ⟨Trims.trim_eq, fun same => same ▸ trims_trim text⟩

theorem trim_eq_nil_iff : trim text = [] ↔ ∀ c ∈ text, isBlank c = true := by
  rw [← trims_iff]
  constructor
  · rintro ⟨⟨left, right, rfl, blank⟩, _, _⟩
    rwa [List.append_nil]
  · intro blank
    exact ⟨⟨text, [], by simp, by simpa using blank⟩, nofun, fun _ _ last => by simp at last⟩

end Text

end Overlay
