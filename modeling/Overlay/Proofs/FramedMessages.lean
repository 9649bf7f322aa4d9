import Mathlib.Data.List.Forall2
import Overlay.Proofs.RelatedLists
import Overlay.Proofs.TextWidths
import Overlay.Terminal

namespace Overlay.Terminal

open Text

theorem lines_eq_splitOn (text : List Char) : lines text = text.splitOn '\n' := by
  induction text with
  | nil => rfl
  | cons c rest ih =>
    rw [lines, List.splitOn_cons_eq_if_modifyHead, ih]
    by_cases newline : c = '\n'
    · rw [if_pos newline, if_pos (beq_iff_eq.mpr newline)]
    · rw [if_neg newline, if_neg (mt beq_iff_eq.mp newline)]
      cases split : List.splitOn '\n' rest with
      | nil => exact absurd split (List.splitOn_ne_nil '\n' rest)
      | cons line more => rfl

/-- No line holds a line feed of its own, which is why each fills exactly one
row of the frame. -/
theorem newline_not_mem_lines {text line : List Char} (member : line ∈ lines text) : '\n' ∉ line := by
  induction text generalizing line with
  | nil =>
    rw [lines, List.mem_singleton] at member
    exact member ▸ List.not_mem_nil
  | cons c rest ih =>
    rw [lines] at member
    split at member
    · rcases List.mem_cons.mp member with rfl | later
      · exact List.not_mem_nil
      · exact ih later
    · rename_i other
      split at member
      · rw [List.mem_singleton] at member
        exact member ▸ fun inside => other (List.mem_singleton.mp inside).symm
      · rename_i first more split
        rcases List.mem_cons.mp member with rfl | later
        · have inFirst := ih (split ▸ List.mem_cons_self)
          exact List.not_mem_cons_of_ne_of_not_mem (Ne.symm other) inFirst
        · exact ih (split ▸ List.mem_cons_of_mem _ later)

/-- Rows that are each ended by a line feed split back into the same rows, with
an empty one behind the last line feed. The text of the box can therefore be
read line by line. -/
theorem lines_rows {rows : List (List Char)} (unbroken : ∀ row ∈ rows, '\n' ∉ row) :
    lines (rows.flatMap fun row => row ++ ['\n']) = rows ++ [[]] := by
  rw [lines_eq_splitOn]
  induction rows with
  | nil => rfl
  | cons row rest ih =>
    obtain ⟨here, later⟩ := List.forall_mem_cons.mp unbroken
    rw [List.flatMap_cons, List.append_assoc, List.singleton_append, List.splitOn_append_cons_self_of_not_mem here,
      ih later, List.cons_append]

/-- The width of the widest line. -/
def widest (text : List (List Char)) : Nat := (text.map width).foldl max 0

theorem widest_eq_max {text : List (List Char)} (nonempty : text.map width ≠ []) :
    widest text = (text.map width).max nonempty := by
  rw [widest, List.foldl_max, List.max?_eq_some_max nonempty, Option.getD_some, Nat.zero_max]

/-- No line is wider than the widest one, so the number of blanks that fills it
up is never negative. -/
theorem width_le_widest {text : List (List Char)} {line : List Char} (member : line ∈ text) :
    width line ≤ widest text := by
  have among := List.mem_map_of_mem (f := width) member
  rw [widest_eq_max (List.ne_nil_of_mem among)]
  exact List.le_max_of_mem among

/-- The width of a text with lines is the width of one of them: the frame is no
wider than it has to be. -/
theorem exists_width_eq_widest {text : List (List Char)} (nonempty : text ≠ []) :
    ∃ line ∈ text, width line = widest text := by
  have nonemptyWidths : text.map width ≠ [] := mt List.map_eq_nil_iff.mp nonempty
  rw [widest_eq_max nonemptyWidths]
  exact List.mem_map.mp (List.max_mem nonemptyWidths)

/-- A border above or below so many columns. -/
def border (left right : Char) (columns : Nat) : List Char := left :: List.replicate (columns + 2) '─' ++ [right]

/-- The row shows the line, unchanged, between the sides of a frame, with blanks
for the columns that it lacks. -/
def Shows (columns : Nat) (line row : List Char) : Prop :=
  ∃ blanks, width line + blanks = columns ∧ row = '│' :: ' ' :: line ++ List.replicate blanks ' ' ++ [' ', '│']

/-- A border is as wide as its columns and the four cells of its corners and its
margin, for every pair of corners that takes one cell each. -/
theorem width_border {left right : Char} (atLeft : step left .none = (1, .none))
    (atRight : step right .none = (1, .none)) (columns : Nat) : width (border left right columns) = columns + 4 := by
  have single : step '─' .none = (1, .none) := by decide +kernel
  have line := (separates_singleton atLeft).append (separates_replicate single (columns + 2))
  have whole : width (border left right columns) = 1 + (columns + 2) + 1 :=
    width_of_separates (line.append (separates_singleton atRight))
  omega

/-- The sides keep apart what stands between them and what stands outside. -/
theorem Shows.width_eq {columns : Nat} {line row : List Char} (shows : Shows columns line row) :
    width row = columns + 4 := by
  obtain ⟨blanks, total, rfl⟩ := shows
  have side : Separates ['│'] 1 := separates_singleton (by decide +kernel)
  have tail : Separates (List.replicate blanks ' ' ++ ' ' :: ['│']) (blanks + (1 + width ['│'])) :=
    (separates_replicate (step_blank _) blanks).append (separates_blank_cons ['│'])
  have inside := width_append tail line
  have whole := width_of_separates
    (side.append (separates_blank_cons (line ++ (List.replicate blanks ' ' ++ ' ' :: ['│']))))
  rw [width_of_separates side] at inside
  simp only [List.cons_append, List.append_assoc, List.nil_append] at whole ⊢
  omega

theorem newline_not_mem_border {left right : Char} (atLeft : '\n' ≠ left) (atRight : '\n' ≠ right) (columns : Nat) :
    '\n' ∉ border left right columns := by
  simp [border, atLeft, atRight, List.mem_replicate]

theorem Shows.newline_not_mem {columns : Nat} {line row : List Char} (shows : Shows columns line row)
    (unbroken : '\n' ∉ line) : '\n' ∉ row := by
  obtain ⟨blanks, _, rfl⟩ := shows
  simp [unbroken, List.mem_replicate]

/-- The rows are a frame around the lines: two borders and between them a row
for each line, all as wide as the widest line and four columns more. No line is
wider than that one, so that there is room for each. -/
structure Frames (text rows : List (List Char)) : Prop where
  fits : ∀ line ∈ text, width line ≤ widest text
  reached : ∃ line ∈ text, width line = widest text
  between : ∃ inside, rows = border '┌' '┐' (widest text) :: inside ++ [border '└' '┘' (widest text)] ∧
    List.Forall₂ (Shows (widest text)) text inside
  even : ∀ row ∈ rows, width row = widest text + 4

/-- The box is a border, one row for each line of the text in its order, and a
border; the rows are related to their lines one by one. -/
theorem exists_boxRows_eq (text : List (List Char)) : ∃ inside,
    boxRows text = border '┌' '┐' (widest text) :: inside ++ [border '└' '┘' (widest text)] ∧
      List.Forall₂ (Shows (widest text)) text inside := by
  refine ⟨_, rfl, List.forall₂_map_right_iff.mpr (List.forall₂_same.mpr fun line member => ?_)⟩
  exact ⟨widest text - width line, Nat.add_sub_cancel' (width_le_widest member), rfl⟩

/-- Each row of the box is one of the borders or shows a line, and whatever is
said of all of them falls into these three cases. -/
theorem mem_boxRows {text : List (List Char)} {row : List Char} (member : row ∈ boxRows text) :
    row = border '┌' '┐' (widest text) ∨ row = border '└' '┘' (widest text) ∨
      ∃ line ∈ text, Shows (widest text) line row := by
  obtain ⟨inside, whole, each⟩ := exists_boxRows_eq text
  rw [whole, List.mem_append, List.mem_cons, List.mem_singleton] at member
  rcases member with (top | inner) | bottom
  · exact Or.inl top
  · exact Or.inr (Or.inr (exists_left_of_forall₂ each inner))
  · exact Or.inr (Or.inl bottom)

theorem frames_boxRows {text : List (List Char)} (nonempty : text ≠ []) : Frames text (boxRows text) where
  fits _ := width_le_widest
  reached := exists_width_eq_widest nonempty
  between := exists_boxRows_eq text
  even row member := by
    rcases mem_boxRows member with rfl | rfl | ⟨line, _, shows⟩
    · exact width_border (by decide +kernel) (by decide +kernel) _
    · exact width_border (by decide +kernel) (by decide +kernel) _
    · exact shows.width_eq

/-- A box around lines without line feeds brings in none, so its rows are the
lines of what is printed. -/
theorem newline_not_mem_boxRows {text : List (List Char)} (unbroken : ∀ line ∈ text, '\n' ∉ line) :
    ∀ row ∈ boxRows text, '\n' ∉ row := by
  intro row member
  rcases mem_boxRows member with rfl | rfl | ⟨line, inText, shows⟩
  · exact newline_not_mem_border (by decide) (by decide) _
  · exact newline_not_mem_border (by decide) (by decide) _
  · exact shows.newline_not_mem (unbroken line inText)

/-- A message is printed as a frame around its lines, every row of it on a line
of its own and in yellow. -/
theorem box_frames (message : String) :
    (['\n'].intercalate (lines message.toList) = message.toList ∧ ∀ line ∈ lines message.toList, '\n' ∉ line) ∧
    ∃ rows, Frames (lines message.toList) rows ∧
      lines (box message).toList = rows.map (fun row => "\x1b[93m".toList ++ row ++ reset) ++ [[]] := by
  have unbroken : ∀ line ∈ lines message.toList, '\n' ∉ line := fun line => newline_not_mem_lines
  have nonempty : lines message.toList ≠ [] := by
    rw [lines_eq_splitOn]
    exact List.splitOn_ne_nil '\n' message.toList
  refine ⟨⟨?_, unbroken⟩, boxRows (lines message.toList), frames_boxRows nonempty, ?_⟩
  · rw [lines_eq_splitOn, List.intercalate_splitOn]
  · have painted : ∀ row ∈ (boxRows (lines message.toList)).map (fun row => "\x1b[93m".toList ++ row ++ reset),
        '\n' ∉ row := by
      refine List.forall_mem_map.mpr fun row member => ?_
      have inside := newline_not_mem_boxRows unbroken row member
      simp only [List.mem_append, not_or]
      exact ⟨⟨by decide, inside⟩, by decide⟩
    rw [← lines_rows painted, List.flatMap_map, box, String.toList_ofList]

end Overlay.Terminal
