import Overlay.Json
import Overlay.Proofs.NumberTexts

namespace Overlay

namespace Json

/-- How far a number is read: an optional minus sign, a whole part without
needless zeros, and then, both optional, a fraction and an exponent with at
least one digit each. -/
inductive NumberState where
  | start
  | minus
  | zero
  | whole
  | point
  | fraction
  | exponentMark
  | exponentSign
  | exponent
  deriving DecidableEq

namespace NumberState

def isExponentMark (c : Char) : Bool := c == 'e' || c == 'E'

/-- One step of the grammar of numbers. A leading zero is followed by no digit,
and a point or an exponent by at least one. -/
def next (state : NumberState) (c : Char) : Option NumberState :=
  match state with
  | .start =>
    if c = '-' then some .minus else if c = '0' then some .zero else if c.isDigit then some .whole else none
  | .minus => if c = '0' then some .zero else if c.isDigit then some .whole else none
  | .zero => if c = '.' then some .point else if isExponentMark c then some .exponentMark else none
  | .whole =>
    if c.isDigit then some .whole
    else if c = '.' then some .point
    else if isExponentMark c then some .exponentMark
    else none
  | .point => if c.isDigit then some .fraction else none
  | .fraction => if c.isDigit then some .fraction else if isExponentMark c then some .exponentMark else none
  | .exponentMark =>
    if c.isDigit then some .exponent else if c = '+' ∨ c = '-' then some .exponentSign else none
  | .exponentSign | .exponent => if c.isDigit then some .exponent else none

/-- Where a number may end. -/
def isFinal : NumberState → Bool
  | .zero | .whole | .fraction | .exponent => true
  | _ => false

def read? (state : NumberState) (text : List Char) : Option NumberState := text.foldlM next state

end NumberState

/-- The text is a number from its start to its end. -/
def isNumber (text : List Char) : Bool := (NumberState.start.read? text).any NumberState.isFinal

/-- A number without fraction and exponent. -/
def isInteger (text : List Char) : Bool :=
  (NumberState.start.read? text).any fun state => state == .zero || state == .whole

theorem isNumber_of_isInteger {text : List Char} (integer : isInteger text = true) : isNumber text = true := by
  obtain ⟨state, read, ending⟩ := (Option.any_eq_true _ _).mp integer
  rw [isNumber, read]
  cases state <;> first | rfl | cases ending

example : isNumber "-0.5e+17".toList = true ∧ isNumber "01".toList = false ∧ isInteger "1.0".toList = false :=
  ⟨rfl, rfl, rfl⟩

namespace NumberState

variable {state middle : NumberState} {c : Char} {front back digits : List Char}

theorem read?_cons_of_next (first : state.next c = some middle) : state.read? (c :: back) = middle.read? back := by
  rw [read?, List.foldlM_cons, first]
  rfl

/-- What is read in two parts passes through the state between them. The parts
of a number are therefore read one by one. -/
theorem read?_append_of_read? (first : state.read? front = some middle) :
    state.read? (front ++ back) = middle.read? back := by
  rw [read?] at first
  rw [read?, List.foldlM_append, first]
  rfl

/-- Where any number of digits may follow. -/
def takesDigits : NumberState → Bool
  | .whole | .fraction | .exponent => true
  | _ => false

theorem next_of_takesDigits (takes : state.takesDigits = true) (digit : c.isDigit = true) :
    state.next c = some state := by
  cases state <;> first | exact if_pos digit | cases takes

/-- Any number of digits, also none, leaves a state alone that takes digits. -/
theorem read?_digits (takes : state.takesDigits = true) (all : ∀ c ∈ digits, c.isDigit = true) :
    state.read? digits = some state := by
  induction digits with
  | nil => rfl
  | cons c rest ih =>
    obtain ⟨digit, more⟩ := List.forall_mem_cons.mp all
    rw [read?_cons_of_next (next_of_takesDigits takes digit), ih more]

/-- Digits where at least one is needed. -/
theorem read?_digits_of_ne_nil (enters : ∀ c : Char, c.isDigit = true → state.next c = some middle)
    (takes : middle.takesDigits = true) (nonempty : digits ≠ []) (all : ∀ c ∈ digits, c.isDigit = true) :
    state.read? digits = .some middle := by
  obtain ⟨c, rest, rfl⟩ := List.exists_cons_of_ne_nil nonempty
  obtain ⟨digit, more⟩ := List.forall_mem_cons.mp all
  rw [read?_cons_of_next (enters c digit), read?_digits takes more]

/-- At the start or behind the minus sign. -/
def isBeginning : NumberState → Bool
  | .start | .minus => true
  | _ => false

theorem next_zero_of_isBeginning (beginning : state.isBeginning = true) : state.next '0' = some .zero := by
  cases state <;> first | rfl | cases beginning

theorem next_digit_of_isBeginning (beginning : state.isBeginning = true) (digit : c.isDigit = true)
    (nonzero : c ≠ '0') : state.next c = some .whole := by
  have noMinus : c ≠ '-' := by
    rintro rfl
    exact absurd digit (by decide)
  cases state with
  | start => rw [next, if_neg noMinus, if_neg nonzero, if_pos digit]
  | minus => rw [next, if_neg nonzero, if_pos digit]
  | _ => cases beginning

theorem exists_toDigits_of_pos (n : Nat) (positive : 0 < n) :
    ∃ first rest, Nat.toDigits 10 n = first :: rest ∧ first ≠ '0' := by
  induction n using Nat.strongRecOn with
  | ind n ih =>
    by_cases small : n < 10
    · rw [Nat.toDigits_of_lt_base small]
      exact ⟨_, _, rfl, fun zero => Nat.ne_of_gt positive (Nat.digitChar_eq_zero.mp zero)⟩
    · obtain ⟨first, rest, digits, nonzero⟩ := ih (n / 10) (by omega) (by omega)
      rw [Nat.toDigits_of_base_le (by decide) (Nat.le_of_not_lt small), digits]
      exact ⟨first, _, rfl, nonzero⟩

/-- The digits of a positive number, or the first ones of them. -/
theorem read?_take_toDigits (beginning : state.isBeginning = true) {n : Nat} (positive : 0 < n) (count : Nat) :
    state.read? ((Nat.toDigits 10 n).take (count + 1)) = some .whole := by
  obtain ⟨first, rest, digits, nonzero⟩ := exists_toDigits_of_pos n positive
  have all := isDigit_toDigits n
  rw [digits, List.forall_mem_cons] at all
  rw [digits, List.take_succ_cons, read?_cons_of_next (next_digit_of_isBeginning beginning all.1 nonzero)]
  exact read?_digits rfl fun c front => all.2 c (List.mem_of_mem_take front)

/-- A positive whole number is read from any beginning: its first digit is not
zero, and every other one may follow. -/
theorem read?_toDigits (beginning : state.isBeginning = true) {n : Nat} (positive : 0 < n) :
    state.read? (Nat.toDigits 10 n) = some .whole := by
  have whole := read?_take_toDigits beginning positive (Nat.toDigits 10 n).length
  rwa [List.take_of_length_le (Nat.le_succ _)] at whole

/-- A point and at least one digit behind the whole part. -/
theorem read?_point (state_point : state.next '.' = some .point) (nonempty : digits ≠ [])
    (all : ∀ c ∈ digits, c.isDigit = true) : state.read? ('.' :: digits) = .some .fraction := by
  rw [read?_cons_of_next state_point]
  exact read?_digits_of_ne_nil (fun _ digit => if_pos digit) rfl nonempty all

end NumberState

open NumberState

theorem isInteger_toString (n : Int) : isInteger (toString n).toList = true := by
  have natural : ∀ state : NumberState, state.isBeginning = true → ∀ n : Nat,
      state.read? (Nat.toDigits 10 n) = some .zero ∨ state.read? (Nat.toDigits 10 n) = some .whole := by
    intro state beginning n
    rcases Nat.eq_zero_or_pos n with rfl | positive
    · exact Or.inl (by rw [Nat.toDigits_zero, read?_cons_of_next (next_zero_of_isBeginning beginning)]; rfl)
    · exact Or.inr (read?_toDigits beginning positive)
  have read : NumberState.start.read? (toString n).toList = some .zero ∨
      NumberState.start.read? (toString n).toList = some .whole := by
    rw [Int.toString_eq_repr, Int.repr_eq_if]
    split
    · rw [Nat.repr_eq_ofList_toDigits, String.toList_ofList]
      exact natural .start rfl _
    · have minus : NumberState.start.next '-' = some .minus := rfl
      rw [String.toList_append, Nat.repr_eq_ofList_toDigits, String.toList_ofList, String.toList_ofList,
        List.singleton_append, read?_cons_of_next minus]
      exact natural .minus rfl (-n).toNat
  rcases read with read | read <;> rw [isInteger, read] <;> rfl

end Json

namespace Notation

open Json NumberState

variable {state : NumberState} {d : Decimal}

/-- Positional notation is read up to its fraction, which it always has. -/
theorem read?_positional (beginning : state.isBeginning = true) (positive : 0 < d.significand) :
    state.read? (positional d) = some .fraction := by
  have all : ∀ c ∈ d.digits, c.isDigit = true := isDigit_toDigits d.significand
  have zeros (count : Nat) : ∀ c ∈ List.replicate count '0', c.isDigit = true := by
    intro c member
    rw [List.eq_of_mem_replicate member]
    rfl
  simp only [positional]
  split
  case isTrue small =>
    rw [List.cons_append, List.cons_append, read?_cons_of_next (next_zero_of_isBeginning beginning)]
    refine read?_point rfl (List.append_ne_nil_of_right_ne_nil _ Nat.toDigits_ne_nil) ?_
    exact List.forall_mem_append.mpr ⟨zeros _, all⟩
  case isFalse large =>
    obtain ⟨count, whole⟩ : ∃ count, (d.magnitude + 1).toNat = count + 1 := ⟨d.magnitude.toNat, by omega⟩
    have front : state.read? (d.digits.take (count + 1)) = some .whole := read?_take_toDigits beginning positive count
    have digits : state.read? d.digits = some .whole := read?_toDigits beginning positive
    rw [whole]
    split
    case isTrue short =>
      rw [read?_append_of_read? front]
      refine read?_point rfl (fun noneLeft => ?_) fun c back => all c (List.mem_of_mem_drop back)
      exact Nat.not_le_of_lt short (List.drop_eq_nil_iff.mp noneLeft)
    case isFalse long =>
      rw [List.append_assoc, read?_append_of_read? digits, read?_append_of_read? (read?_digits rfl (zeros _))]
      rfl

/-- An exponent is read behind its mark in each of the ways a notation writes
it, with a sign or without one. -/
theorem read?_exponent (n : Notation) (d : Decimal) : exponentMark.read?
    ((if d.magnitude < 0 then ['-'] else if n.plusInExponent then ['+'] else []) ++
      Nat.toDigits 10 d.magnitude.natAbs) = some .exponent := by
  have digits (state : NumberState) (enters : ∀ c : Char, c.isDigit = true → state.next c = some .exponent) :
      state.read? (Nat.toDigits 10 d.magnitude.natAbs) = some .exponent :=
    read?_digits_of_ne_nil enters rfl Nat.toDigits_ne_nil (isDigit_toDigits _)
  split
  · exact digits .exponentSign fun _ digit => if_pos digit
  · split
    · exact digits .exponentSign fun _ digit => if_pos digit
    · exact digits .exponentMark fun _ digit => if_pos digit

theorem read?_scientific (n : Notation) (beginning : state.isBeginning = true) (positive : 0 < d.significand) :
    state.read? (n.scientific d) = some .exponent := by
  obtain ⟨first, rest, digits, nonzero⟩ := exists_toDigits_of_pos d.significand positive
  have all := isDigit_toDigits d.significand
  rw [digits, List.forall_mem_cons] at all
  have whole := next_digit_of_isBeginning beginning all.1 nonzero
  simp only [scientific, Decimal.digits, digits]
  cases rest with
  | nil =>
    rw [List.append_assoc, List.cons_append, List.nil_append, read?_cons_of_next whole]
    exact read?_exponent n d
  | cons second rest =>
    have fraction : state.read? (first :: '.' :: second :: rest) = some .fraction := by
      rw [read?_cons_of_next whole]
      exact read?_point rfl (List.cons_ne_nil _ _) all.2
    rw [List.append_assoc, read?_append_of_read? fraction]
    exact read?_exponent n d

end Notation

theorem Decimal.significand_normalize_pos (limit : Nat) {d : Decimal} (positive : 0 < d.significand) :
    0 < (d.normalize limit).significand := by
  induction limit generalizing d with
  | zero => exact positive
  | succ limit ih =>
    rw [normalize]
    split
    · exact ih (Nat.div_pos (by omega) (by decide))
    · exact positive

namespace Double

variable {x : Double}

theorem magnitude_pos_of_not_isZero (nonzero : x.isZero = false) : 0 < x.magnitude.1 := by
  rw [isZero, Bool.and_eq_false_iff, beq_eq_false_iff_ne, beq_eq_false_iff_ne] at nonzero
  rw [magnitude]
  split
  · rename_i least
    exact Nat.pos_of_ne_zero (nonzero.resolve_left fun other => other least)
  · exact Nat.add_pos_right _ (by decide)

theorem interval_low_pos (nonzero : x.isZero = false) : 0 < x.interval.low := by
  have positive := magnitude_pos_of_not_isZero nonzero
  simp only [interval]
  split <;> omega

theorem Interval.pos_of_contains {i : Interval} (low : 0 < i.low) {unit point : Nat} (unit_pos : 0 < unit)
    (inside : i.contains unit point = true) : 0 < point := by
  have bound : 0 < i.low * unit := Nat.mul_pos low unit_pos
  rw [contains] at inside
  split at inside
  · obtain ⟨above, _⟩ := Bool.and_eq_true_iff.mp inside
    exact Nat.lt_of_lt_of_le bound (of_decide_eq_true above)
  · obtain ⟨above, _⟩ := Bool.and_eq_true_iff.mp inside
    exact Nat.lt_trans bound (of_decide_eq_true above)

/-- A decimal that was found in such an interval is positive, so that its first
digit is not a zero. -/
theorem gridPoint?_pos {i : Interval} (low : 0 < i.low) {quarter power : Int} {point : Nat}
    (found : gridPoint? i quarter power = some point) : 0 < point := by
  have candidates {unit step first second : Nat} (unit_pos : 0 < unit)
      (found : (if i.contains unit (first * step) then some first
        else if i.contains unit (second * step) then some second else none) = some point) : 0 < point := by
    split at found
    · rename_i inside
      obtain rfl := Option.some.inj found
      exact Nat.pos_of_mul_pos_right (Interval.pos_of_contains low unit_pos inside)
    · split at found
      · rename_i inside
        obtain rfl := Option.some.inj found
        exact Nat.pos_of_mul_pos_right (Interval.pos_of_contains low unit_pos inside)
      · cases found
  exact candidates (Nat.mul_pos (Nat.pow_pos (by decide)) (Nat.pow_pos (by decide))) found

/-- A number that is not zero is written with a first digit that is not, or all
attempts to write it have failed. -/
theorem shortest_pos_or (nonzero : x.isZero = false) : 0 < x.shortest.significand ∨ x.shortest = ⟨0, 17⟩ := by
  have attempts (count : Nat) (power : Int) :
      0 < (shortestFrom x power count).significand ∨ shortestFrom x power count = ⟨0, 0⟩ := by
    induction count generalizing power with
    | zero => exact Or.inr rfl
    | succ count ih =>
      rw [shortestFrom]
      split
      · rename_i point found
        exact Or.inl (gridPoint?_pos (interval_low_pos nonzero) found)
      · exact ih _
  rw [shortest]
  rcases attempts 17 x.decimalMagnitude with positive | failed
  · exact Or.inl (Decimal.significand_normalize_pos 17 positive)
  · exact Or.inr (by rw [failed]; rfl)

end Double

namespace Json

open NumberState

/-- The text of a finite float is a number. -/
theorem isNumber_finite (x : Double) : isNumber (floatNotation.finite x) = true := by
  have magnitude (state : NumberState) (beginning : state.isBeginning = true) : ∃ final, final.isFinal = true ∧
      state.read? (if x.isZero then ['0', '.', '0'] else floatNotation.decimal x.shortest) = some final := by
    split
    · exact ⟨.fraction, rfl, read?_cons_of_next (next_zero_of_isBeginning beginning)⟩
    · rename_i nonzero
      rcases Double.shortest_pos_or (Bool.not_eq_true _ ▸ nonzero) with positive | failed
      · unfold Notation.decimal
        split
        · exact ⟨_, rfl, Notation.read?_positional beginning positive⟩
        · exact ⟨_, rfl, Notation.read?_scientific floatNotation beginning positive⟩
      · rw [failed]
        exact ⟨.exponent, rfl, read?_cons_of_next (next_zero_of_isBeginning beginning)⟩
  have read : ∃ final, final.isFinal = true ∧ NumberState.start.read? (floatNotation.finite x) = some final := by
    simp only [Notation.finite]
    split
    · exact magnitude .minus rfl
    · exact magnitude .start rfl
  obtain ⟨final, ending, read⟩ := read
  rw [isNumber, read]
  exact ending

end Json

end Overlay
