import Overlay.Text.Width

namespace Overlay

/-- A class of characters is given by its ranges, so that membership is a
statement about numbers. -/
theorem CharRanges.contains_iff {ranges : CharRanges} {c : Char} :
    ranges.contains c = true ↔ ∃ range ∈ ranges, range.1 ≤ c.toNat ∧ c.toNat ≤ range.2 := by
  simp [contains]

/-- Classes with ranges apart have no character in common. The ranges are
literals, and the condition on them is decided. -/
theorem CharRanges.not_contains_of_apart {ranges others : CharRanges} {c : Char} (inside : ranges.contains c = true)
    (apart : ∀ range ∈ ranges, ∀ other ∈ others, range.2 < other.1 ∨ other.2 < range.1) :
    others.contains c = false := by
  refine Bool.eq_false_iff.mpr fun insideToo => ?_
  obtain ⟨range, member, first, last⟩ := contains_iff.mp inside
  obtain ⟨other, memberToo, firstToo, lastToo⟩ := contains_iff.mp insideToo
  have := apart range member other memberToo
  omega

namespace Text

/-- No character that is written below another is without columns when it is
measured by itself. -/
theorem columns_pos_of_isKhmerSubscript {c : Char} (khmer : isKhmerSubscript c = true) : 0 < columns c := by
  have shown : zeroWidthRanges.contains c = false := CharRanges.not_contains_of_apart khmer (by decide +kernel)
  rw [columns, shown, if_neg Bool.false_ne_true]
  repeat' split
  all_goals decide

/-- So many columns at least are taken by a text that starts with this. A letter
in front of it may take one back. -/
def Follower.least : Follower → Int
  | .khmer | .linkedTifinagh | .joinedFlagLetter | .joinedOddFlagLetters => 1
  | _ => 0

namespace Follower

theorem least_nonneg (follower : Follower) : 0 ≤ follower.least := by
  cases follower <;> simp [least]

theorem least_join (follower : Follower) : follower.join.least = follower.least := by
  cases follower <;> rfl

/-- The rules are nested conditions; with this lemma a bound is shown for each
of the outcomes. -/
theorem least_ite_le {p : Prop} [Decidable p] {first second : Follower} {bound : Int} (yes : p → first.least ≤ bound)
    (no : ¬ p → second.least ≤ bound) : (if p then first else second).least ≤ bound := by
  by_cases holds : p
  · rw [if_pos holds]
    exact yes holds
  · rw [if_neg holds]
    exact no holds

/-- What is to be taken away when a character is measured again with what
follows it was counted for it before. -/
theorem least_ofChar (c : Char) : (ofChar c).least ≤ columns c := by
  have nonneg : (0 : Int) ≤ columns c := Int.natCast_nonneg _
  have khmer (letter : isKhmerSubscript c = true) : (1 : Int) ≤ columns c := by
    have := columns_pos_of_isKhmerSubscript letter
    omega
  -- of all that a character can be to the one before it only a letter of Khmer has a column to spare
  unfold ofChar
  iterate 6 refine least_ite_le (fun _ => nonneg) fun _ => ?_
  refine least_ite_le khmer fun _ => ?_
  iterate 5 refine least_ite_le (fun _ => nonneg) fun _ => ?_
  exact nonneg

end Follower

variable {c : Char} {follower next : Follower} {added : Int}

/-- One lemma for each table of rules: what a rule adds makes up for what the
next one may take away. -/
theorem least_letterRule (rule : letterRule c follower = some (added, next)) :
    next.least ≤ follower.least + added := by
  unfold letterRule at rule
  split at rule
  · repeat' split at rule
    all_goals cases rule <;> decide
  split at rule
  · cases rule
    exact Int.le_of_eq (by rw [Follower.least_join, Int.add_zero])
  split at rule
  · cases rule
    exact Int.le_of_eq (Int.add_zero _).symm
  · repeat' split at rule
    all_goals cases rule <;> decide

theorem least_emojiRule (rule : emojiRule c follower = some (added, next)) : next.least ≤ follower.least + added := by
  unfold emojiRule at rule
  repeat' split at rule
  -- not `decide`, since the letters and digits of a tag are counted
  all_goals cases rule <;> exact of_decide_eq_true rfl

theorem least_vowelRule (rule : vowelRule c follower = some (added, next)) : next.least ≤ follower.least + added := by
  unfold vowelRule at rule
  repeat' split at rule
  all_goals cases rule <;> decide

/-- Where no rule applies, the columns of the character itself are added. -/
theorem least_plainStep (c : Char) (follower : Follower) :
    (plainStep c follower).2.least ≤ follower.least + (plainStep c follower).1 := by
  unfold plainStep
  cases joined :
      if follower.isLetter then letterRule c follower else (emojiRule c follower).or (vowelRule c follower) with
  | none =>
    have own := Follower.least_ofChar c
    have behind := follower.least_nonneg
    simp only [Option.getD_none]
    omega
  | some taken =>
    simp only [Option.getD_some]
    split at joined
    · exact least_letterRule joined
    · rcases Option.or_eq_some_iff.mp joined with rule | ⟨_, rule⟩
      · exact least_emojiRule rule
      · exact least_vowelRule rule

namespace Surroundings

/-- At most the follower is kept in mind. -/
def Forgets (before after : Surroundings) : Prop := after.follower = before.follower ∨ after.follower = .other

/-- Forgetting something of what follows leaves no more to be taken away. -/
theorem Forgets.least {before after : Surroundings} (forgets : Forgets before after) :
    after.follower.least ≤ before.follower.least := by
  rcases forgets with same | other
  · exact Int.le_of_eq (congrArg Follower.least same)
  · rw [other]
    exact before.follower.least_nonneg

variable (behind : Surroundings)

theorem forgets_askEmojiStyle : Forgets behind behind.askEmojiStyle := by
  unfold askEmojiStyle
  split
  · rename_i joined
    exact Or.inl joined.symm
  · rename_i joined
    exact Or.inl joined.symm
  · split
    · exact Or.inl rfl
    · exact Or.inr rfl

theorem forgets_askTextStyle : Forgets behind behind.askTextStyle := by
  unfold askTextStyle
  split
  · exact Or.inl rfl
  · exact Or.inr rfl

theorem forgets_dropEmojiStyle : Forgets behind behind.dropEmojiStyle := by
  unfold dropEmojiStyle
  split
  · exact Or.inl rfl
  split
  · exact Or.inl rfl
  · exact Or.inr rfl

theorem styledColumns_nonneg : 0 ≤ behind.styledColumns := by
  unfold styledColumns
  split <;> decide

end Surroundings

/-- A character may take a column back only from what has it to spare. -/
theorem least_step (c : Char) (behind : Surroundings) :
    (step c behind).2.follower.least ≤ behind.follower.least + (step c behind).1 := by
  have here := behind.follower.least_nonneg
  have dropped := behind.forgets_dropEmojiStyle.least
  unfold step
  split
  · exact Int.add_nonneg here behind.styledColumns_nonneg
  dsimp only
  split
  · exact Int.add_nonneg here (by decide)
  split
  · have asked := behind.dropEmojiStyle.forgets_askEmojiStyle.least
    simp only [Int.add_zero]
    omega
  split
  · have asked := behind.dropEmojiStyle.forgets_askTextStyle.least
    simp only [Int.add_zero]
    omega
  split
  · exact Int.add_nonneg here (by decide)
  · have plain := least_plainStep c behind.dropEmojiStyle.follower
    dsimp only
    omega

/-- The invariant holds behind any text, by induction from its end, in the
direction in which it is measured. -/
theorem least_measure (text : List Char) : (measure .none text).2.follower.least ≤ (measure .none text).1 := by
  induction text with
  | nil => decide
  | cons c rest ih =>
    have here := least_step c (measure .none rest).2
    simp only [measure]
    omega

/-- No text takes less than no column, so that its width is what its characters
add up to from the end. -/
theorem width_eq_measure (text : List Char) : (width text : Int) = (measure .none text).1 := by
  have least := least_measure text
  have nonneg := (measure .none text).2.follower.least_nonneg
  rw [width]
  omega

/-- A text takes so many columns, and a text in front of it is measured as if it
stood alone. -/
def Separates (text : List Char) (columns : Nat) : Prop := measure .none text = ((columns : Int), Surroundings.none)

/-- A text that separates has its columns by itself, with nothing in front of
it. -/
theorem width_of_separates {text : List Char} {columns : Nat} (separates : Separates text columns) :
    width text = columns := by
  rw [width, separates, Int.toNat_natCast]

/-- Texts that separate can be put one behind the other, and their columns add
up. In general columns do not. -/
theorem Separates.append {front back : List Char} {columns more : Nat} (first : Separates front columns)
    (second : Separates back more) : Separates (front ++ back) (columns + more) := by
  have total : ((columns + more : Nat) : Int) = more + columns := by omega
  rw [Separates, measure_append, second, first, total]

theorem separates_singleton {c : Char} (single : step c .none = (1, .none)) : Separates [c] 1 := by
  rw [Separates, measure, measure]
  simp only [single]
  rfl

theorem separates_replicate {c : Char} (single : step c .none = (1, .none)) (count : Nat) :
    Separates (List.replicate count c) count := by
  induction count with
  | zero => rfl
  | succ count ih =>
    have next := (separates_singleton single).append ih
    rwa [Nat.add_comm 1 count, List.singleton_append, ← List.replicate_succ] at next

/-- A blank has one column and leaves nothing to be joined, whatever stands
behind it. -/
theorem step_blank (behind : Surroundings) : step ' ' behind = (1, .none) := by
  have noStyle : hasEmojiStyle ' ' = false := by decide +kernel
  rw [step, noStyle, Bool.and_false, if_neg Bool.false_ne_true, if_pos (by decide)]

/-- A blank in front of a text keeps it apart from everything. -/
theorem separates_blank_cons (text : List Char) : Separates (' ' :: text) (1 + width text) := by
  have total : ((1 + width text : Nat) : Int) = (measure .none text).1 + 1 := by
    have := width_eq_measure text
    omega
  rw [Separates, measure, total]
  simp only [step_blank]

theorem width_append {back : List Char} {columns : Nat} (separates : Separates back columns) (front : List Char) :
    width (front ++ back) = width front + columns := by
  have whole := width_eq_measure (front ++ back)
  have alone := width_eq_measure front
  rw [measure_append, separates] at whole
  dsimp only at whole
  omega

end Text

end Overlay
