import Overlay.Proofs.NumberTexts
import Overlay.Report

namespace Overlay

namespace Terminal

variable {code : List Char} {c : Char}

theorem prefix_of_prefix_append_cons {word front tail : List Char} (outside : c ∉ word)
    (start : word <+: front ++ c :: tail) : word <+: front := by
  induction front generalizing word with
  | nil =>
    cases word with
    | nil => exact List.nil_prefix
    | cons d word =>
      obtain ⟨same, _⟩ := List.cons_prefix_cons.mp start
      exact absurd (same ▸ List.mem_cons_self) outside
  | cons d front ih =>
    cases word with
    | nil => exact List.nil_prefix
    | cons e word =>
      obtain ⟨same, more⟩ := List.cons_prefix_cons.mp start
      exact List.cons_prefix_cons.mpr ⟨same, ih (List.not_mem_of_not_mem_cons outside) more⟩

theorem recolour_of_not_mem {tail : List Char} (plain : '\x1b' ∉ tail) : recolour code 0 tail = tail := by
  induction tail with
  | nil => rfl
  | cons c tail ih =>
    have noReset : ¬ reset.isPrefixOf (c :: tail) = true := by
      rw [List.isPrefixOf_iff_prefix]
      intro start
      exact List.ne_of_not_mem_cons plain (List.cons_prefix_cons.mp start).1
    rw [recolour, if_neg noReset, ih (List.not_mem_of_not_mem_cons plain)]

/-- Where a character stands that cannot be part of a reset, a text may be cut.
-/
theorem recolour_append_cons (outside : c ∉ reset) {front tail : List Char} (plain : '\x1b' ∉ tail) {skip : Nat}
    (within : skip ≤ front.length) :
    recolour code skip (front ++ c :: tail) = recolour code skip front ++ c :: tail := by
  induction front generalizing skip with
  | nil =>
    obtain rfl := Nat.le_zero.mp within
    have noEscape : '\x1b' ≠ c := by
      rintro rfl
      exact outside List.mem_cons_self
    exact recolour_of_not_mem (List.not_mem_cons_of_ne_of_not_mem noEscape plain)
  | cons d front ih =>
    cases skip with
    | succ skip => exact ih (Nat.le_of_succ_le_succ within)
    | zero =>
      have sameReset : reset.isPrefixOf (d :: (front ++ c :: tail)) = reset.isPrefixOf (d :: front) := by
        rw [Bool.eq_iff_iff, List.isPrefixOf_iff_prefix, List.isPrefixOf_iff_prefix]
        exact ⟨fun start => prefix_of_prefix_append_cons outside (show reset <+: (d :: front) ++ c :: tail from start),
          fun start => start.trans (List.prefix_append (d :: front) _)⟩
      rw [List.cons_append, recolour, recolour, sameReset]
      split
      · rename_i start
        have room : reset.length - 1 ≤ front.length :=
          Nat.le_of_succ_le_succ (List.isPrefixOf_iff_prefix.mp start).length_le
        rw [ih room, List.append_assoc, List.append_assoc, List.append_assoc]
      · rw [List.cons_append, ih (Nat.zero_le _)]

end Terminal

/-- Digits at the end of a text, behind a character that is none, are read in
one way only. -/
theorem eq_of_append_digits {front front' digits digits' : List Char} {c c' : Char}
    (stop : c.isDigit = false) (stop' : c'.isDigit = false)
    (all : ∀ d ∈ digits, d.isDigit = true) (all' : ∀ d ∈ digits', d.isDigit = true)
    (same : front ++ c :: digits = front' ++ c' :: digits') : front = front' ∧ digits = digits' := by
  have last {front digits : List Char} {c : Char} (stop : c.isDigit = false)
      (all : ∀ d ∈ digits, d.isDigit = true) :
      (front ++ c :: digits).reverse.takeWhile Char.isDigit = digits.reverse := by
    rw [List.reverse_append, List.reverse_cons, List.append_assoc, List.takeWhile_append_of_pos
      fun d member => all d (List.mem_reverse.mp member), List.singleton_append,
      List.takeWhile_cons_of_neg (by rw [stop]; decide), List.append_nil]
  have digitsSame : digits = digits' := by
    rw [← List.reverse_inj, ← last stop all, ← last stop' all', same]
  subst digitsSame
  exact ⟨(List.append_inj' same rfl).1, rfl⟩

/-- What stands behind the two numbers of a verdict. -/
def verdictEnd : String := " overridden by the config file"

/-- The line that the check of a valid configuration ends with. -/
def verdictLine (config : String) (coloured : Bool) (count overridden : Nat) : String :=
  Terminal.paint coloured .green
    (config ++ " is valid: " ++ toString count ++ " arguments, " ++ toString overridden ++ verdictEnd) ++ "\n"

/-- The characters of the verdict behind its first number and the space in front
of it. -/
def verdictTail (count overridden : Nat) : List Char :=
  Nat.toDigits 10 count ++ (" arguments, ".toList ++ (Nat.toDigits 10 overridden ++ verdictEnd.toList))

/-- The end of the verdict has no escape character, so colouring does not change
it. -/
theorem escape_not_mem_verdictTail (count overridden : Nat) : '\x1b' ∉ verdictTail count overridden := by
  have digits (n : Nat) : '\x1b' ∉ Nat.toDigits 10 n := fun member =>
    absurd (isDigit_toDigits n _ member) (by decide)
  simp only [verdictTail, List.mem_append, not_or]
  exact ⟨digits _, by decide, digits _, by decide⟩

/-- Colours leave what is behind the configuration as it is. -/
theorem exists_toList_verdictLine (config : String) (coloured : Bool) (count overridden : Nat) :
    ∃ front, (verdictLine config coloured count overridden).toList =
      front ++ ' ' :: verdictTail count overridden ++ ((if coloured then Terminal.reset else []) ++ ['\n']) := by
  have text : (config ++ " is valid: " ++ toString count ++ " arguments, " ++ toString overridden ++
      verdictEnd).toList = (config ++ " is valid:").toList ++ ' ' :: verdictTail count overridden := by
    have digits (n : Nat) : (toString n).toList = Nat.toDigits 10 n := String.toList_ofList
    simp only [String.toList_append, digits, List.append_assoc, verdictTail]
    rfl
  cases coloured with
  | false => exact ⟨_, by rw [verdictLine, Terminal.paint, if_neg nofun, String.toList_append, text]; rfl⟩
  | true =>
    refine ⟨Terminal.Colour.green.code ++
      Terminal.recolour Terminal.Colour.green.code 0 (config ++ " is valid:").toList, ?_⟩
    rw [verdictLine, Terminal.paint, if_pos rfl, String.toList_append, String.toList_ofList, text,
      Terminal.recolour_append_cons (by decide) (escape_not_mem_verdictTail _ _) (Nat.zero_le _)]
    simp only [List.append_assoc]
    rfl

/-- The output of a check tells that the configuration is valid and has so many
arguments. -/
def ReportsValid (options : Options) (coloured : Bool) (output : String) (count : Nat) : Prop :=
  ∃ changes overridden, output = Command.check.heading options ++ changes ++
    verdictLine options.config coloured count overridden

/-- A report of validity ends in its two numbers, each between fixed words,
whatever the path in front of them is. -/
theorem ReportsValid.exists_toList {options : Options} {coloured : Bool} {output : String} {count : Nat}
    (reports : ReportsValid options coloured output count) :
    ∃ before overridden, output.toList =
      ((before ++ ' ' :: Nat.toDigits 10 count) ++ " arguments,".toList) ++ ' ' :: Nat.toDigits 10 overridden ++
        (verdictEnd.toList ++ ((if coloured then Terminal.reset else []) ++ ['\n'])) := by
  obtain ⟨changes, overridden, rfl⟩ := reports
  obtain ⟨front, line⟩ := exists_toList_verdictLine options.config coloured count overridden
  refine ⟨(Command.check.heading options ++ changes).toList ++ front, overridden, ?_⟩
  rw [String.toList_append, line]
  simp only [verdictTail, List.append_assoc, List.cons_append]
  rfl

/-- A check tells one number of arguments: read from the end, no configuration
and no key can pass for a part of it. -/
theorem ReportsValid.unique {options : Options} {coloured : Bool} {output : String} {count other : Nat}
    (first : ReportsValid options coloured output count) (second : ReportsValid options coloured output other) :
    count = other := by
  obtain ⟨_, _, text⟩ := first.exists_toList
  obtain ⟨_, _, text'⟩ := second.exists_toList
  have numbers := List.append_cancel_right (text.symm.trans text')
  obtain ⟨counts, _⟩ := eq_of_append_digits rfl rfl (isDigit_toDigits _) (isDigit_toDigits _) numbers
  obtain ⟨_, digits⟩ := eq_of_append_digits rfl rfl (isDigit_toDigits _) (isDigit_toDigits _)
    (List.append_cancel_right counts)
  have read (n : Nat) : Nat.ofDigitChars 10 (Nat.toDigits 10 n) 0 = n :=
    Nat.ofDigitChars_toDigits (by decide) (by decide)
  rw [← read count, digits, read]

end Overlay
