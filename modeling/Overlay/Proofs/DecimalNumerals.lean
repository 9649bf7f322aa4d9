import Mathlib.Data.List.TakeWhile
import Overlay.Proofs.JsonNumbers
import Overlay.Proofs.JsonOutput
import Overlay.Yaml.Composition

namespace Overlay.Yaml

/-- A digit more at the end multiplies by the base and adds the digit. The
digits of a number are taken off from that end, so this is the step of the
induction. -/
theorem digitsValue?_append_digit {base value digit : Nat} {digits : List Char} (small : digit < base)
    (known : base ≤ 16) (read : digitsValue? base digits = some value) :
    digitsValue? base (digits ++ [digit.digitChar]) = some (base * value + digit) := by
  have nonempty : digits ≠ [] := by
    rintro rfl
    cases read
  rw [digitsValue?, if_neg nonempty] at read
  rw [digitsValue?, if_neg (List.append_ne_nil_of_left_ne_nil nonempty _), List.foldl_append, read, List.foldl_cons,
    List.foldl_nil]
  simp [Json.hexDigit?_digitChar (Nat.lt_of_lt_of_le small known), small]

/-- Reading the digits of a number gives the number, for all of them, by strong
induction. -/
theorem digitsValue?_toDigits (n : Nat) : digitsValue? 10 (Nat.toDigits 10 n) = some n := by
  induction n using Nat.strongRecOn with
  | ind n ih =>
    by_cases small : n < 10
    · rw [Nat.toDigits_of_lt_base small]
      simp [digitsValue?, Json.hexDigit?_digitChar (show n < 16 by omega), small]
    · rw [Nat.toDigits_of_base_le (by decide) (Nat.le_of_not_lt small),
        digitsValue?_append_digit (Nat.mod_lt n (by decide)) (by decide) (ih (n / 10) (by omega)), Nat.div_add_mod]

/-- The digits of a number start with a zero only if they are nothing else. -/
theorem toDigits_eq_or (n : Nat) :
    Nat.toDigits 10 n = ['0'] ∨ ∃ first rest, Nat.toDigits 10 n = first :: rest ∧ first ≠ '0' := by
  rcases Nat.eq_zero_or_pos n with rfl | positive
  · exact Or.inl rfl
  · exact Or.inr (Json.NumberState.exists_toDigits_of_pos n positive)

/-- The digits start with a digit, so no sign is taken for a part of them. -/
theorem exists_toDigits (n : Nat) : ∃ first rest, Nat.toDigits 10 n = first :: rest ∧ first ≠ '-' ∧ first ≠ '+' := by
  obtain ⟨first, rest, digits⟩ := List.exists_cons_of_ne_nil (Nat.toDigits_ne_nil (b := 10) (n := n))
  have digit : first.isDigit = true := isDigit_toDigits n first (digits ▸ List.mem_cons_self)
  refine ⟨first, rest, digits, ?_, ?_⟩ <;>
  · rintro rfl
    cases digit

/-- A number is never written with a zero in front that could be left out. The
reader takes such texts for strings. -/
theorem noNeedlessZero (n : Nat) : (1 < (Nat.toDigits 10 n).length && (Nat.toDigits 10 n).head? == some '0' &&
    (Nat.toDigits 10 n).all Char.isDigit) = false := by
  obtain zero | ⟨first, rest, digits, nonzero⟩ := toDigits_eq_or n
  · rw [zero]
    rfl
  · simp [digits, nonzero]

theorem isPaddedNumber_toDigits (n : Nat) : isPaddedNumber (Nat.toDigits 10 n) = false := by
  obtain ⟨first, rest, digits, noMinus, noPlus⟩ := exists_toDigits n
  have unpadded := noNeedlessZero n
  rw [digits] at unpadded
  rw [digits, isPaddedNumber]
  · exact unpadded
  · exact fun _ same => noMinus (List.cons.inj same).1
  · exact fun _ same => noPlus (List.cons.inj same).1

theorem magnitude?_toDigits (n : Nat) : magnitude? (Nat.toDigits 10 n) = some n := by
  have noRadix : radixValue? (Nat.toDigits 10 n) = none := by
    obtain zero | ⟨first, rest, digits, nonzero⟩ := toDigits_eq_or n
    · rw [zero]
      rfl
    · simp [radixValue?, digits, nonzero]
  rw [magnitude?, noRadix, isPaddedNumber_toDigits, digitsValue?_toDigits]
  rfl

theorem readMagnitude?_toDigits (n : Nat) : Double.readMagnitude? (Nat.toDigits 10 n) = some ⟨n, 0⟩ := by
  have whole : (Nat.toDigits 10 n).takeWhile Char.isDigit = Nat.toDigits 10 n :=
    List.takeWhile_eq_self_iff.mpr (isDigit_toDigits n)
  have rest : (Nat.toDigits 10 n).dropWhile Char.isDigit = [] := List.dropWhile_eq_nil_iff.mpr (isDigit_toDigits n)
  have value : Double.digitsValue (Nat.toDigits 10 n) = n := Nat.ofDigitChars_toDigits (by decide) (by decide)
  simp [Double.readMagnitude?, whole, rest, value, Double.readExponent?, Nat.toDigits_ne_nil]

/-- An integer in plain decimal: a minus sign or none, and digits without
needless zeros. -/
structure Numeral where
  negative : Bool
  magnitude : Nat

namespace Numeral

def value (n : Numeral) : Int := if n.negative then -(n.magnitude : Int) else n.magnitude

/-- The digits, behind a minus sign if there is one. -/
def chars (n : Numeral) : List Char :=
  if n.negative then '-' :: Nat.toDigits 10 n.magnitude else Nat.toDigits 10 n.magnitude

def text (n : Numeral) : String := String.ofList n.chars

/-- The float nearest to the integer; infinity beyond the greatest finite one.
-/
def nearest (n : Numeral) : Double := Double.ofDecimal n.negative ⟨n.magnitude, 0⟩

/-- Whether the integer fits into 128 bits, with or without sign. -/
def isShort (n : Numeral) : Bool :=
  -0x80000000000000000000000000000000 ≤ n.value && n.value < 0x100000000000000000000000000000000

/-- Every integer is written in this way. -/
theorem exists_text_eq_toString (value : Int) : ∃ n : Numeral, n.value = value ∧ n.text = toString value := by
  rw [Int.toString_eq_repr, Int.repr_eq_if]
  split
  · rename_i negative
    refine ⟨⟨false, value.toNat⟩, Int.toNat_of_nonneg negative, ?_⟩
    rw [Nat.repr_eq_ofList_toDigits]
    rfl
  · rename_i negative
    refine ⟨⟨true, (-value).toNat⟩, ?_, ?_⟩
    · simp only [Numeral.value, if_pos]
      omega
    · rw [Nat.repr_eq_ofList_toDigits, text, chars, if_pos rfl, ← List.singleton_append, String.ofList_append]

variable (n : Numeral)

theorem isPaddedNumber_chars : isPaddedNumber n.chars = false := by
  rw [chars]
  split
  · exact noNeedlessZero n.magnitude
  · exact isPaddedNumber_toDigits n.magnitude

/-- The numeral is read back as its number, the sign included. -/
theorem signedInteger?_chars : signedInteger? n.chars = some n.value := by
  obtain ⟨first, rest, digits, noMinus, noPlus⟩ := exists_toDigits n.magnitude
  have magnitude := magnitude?_toDigits n.magnitude
  rw [digits] at magnitude
  unfold chars value
  split
  · simp [signedInteger?, digits, magnitude]
  · simp [signedInteger?, digits, noMinus, noPlus, magnitude]

/-- Tried as a float, the numeral is the float next to it. -/
theorem read?_chars : Double.read? n.chars = some n.nearest := by
  obtain ⟨first, rest, digits, noMinus, noPlus⟩ := exists_toDigits n.magnitude
  have magnitude := readMagnitude?_toDigits n.magnitude
  rw [digits] at magnitude
  unfold chars nearest
  split
  · rename_i negative
    simp [Double.read?, digits, magnitude, negative]
  · rename_i negative
    simp [Double.read?, digits, noMinus, noPlus, magnitude, negative]

theorem chars_ne_nil : n.chars ≠ [] := by
  rw [chars]
  split
  · exact List.cons_ne_nil _ _
  · exact Nat.toDigits_ne_nil

/-- A digit or a minus sign. -/
def isPart (c : Char) : Bool := c.isDigit || c == '-'

theorem isPart_of_mem_chars : ∀ c ∈ n.chars, isPart c = true := by
  have digits : ∀ c ∈ Nat.toDigits 10 n.magnitude, isPart c = true := fun c member =>
    Bool.or_eq_true_iff.mpr (Or.inl (isDigit_toDigits _ c member))
  rw [chars]
  split
  · exact List.forall_mem_cons.mpr ⟨rfl, digits⟩
  · exact digits

/-- No word for null, a truth value, an infinity or a NaN is a numeral. -/
theorem text_contains_eq_false {words : List String} (others : (words.all (·.toList.any (!isPart ·))) = true) :
    words.contains n.text = false := by
  refine Bool.eq_false_iff.mpr fun listed => ?_
  have other := List.all_eq_true.mp others _ (List.contains_iff_mem.mp listed)
  obtain ⟨c, member, noPart⟩ := List.any_eq_true.mp other
  rw [text, String.toList_ofList] at member
  rw [isPart_of_mem_chars n c member] at noPart
  cases noPart

/-- What a plain scalar with this text means. Words like those for true and null
are kept apart by their letters, and a float only comes into question when the
integer is too long. -/
theorem meaning_text : meaning n.text =
    if n.isShort then .integer n.value else if n.nearest.isFinite then .float n.nearest else .string := by
  have noBool : bool? n.chars = none := by
    rw [bool?, ← text, n.text_contains_eq_false (by decide), n.text_contains_eq_false (by decide)]
    rfl
  have float : float? n.chars = if n.nearest.isFinite then some n.nearest else none := by
    rw [float?, ← text, n.text_contains_eq_false (by decide), n.text_contains_eq_false (by decide),
      n.text_contains_eq_false (by decide), read?_chars]
    rfl
  have integer : integer? n.chars = if n.isShort then some n.value else none := by
    rw [integer?, signedInteger?_chars, Option.filter_some, isShort]
    simp
  have nonempty : n.text ≠ "" := fun empty => n.chars_ne_nil (String.ofList_eq_empty_iff.mp empty)
  rw [meaning, n.text_contains_eq_false (by decide), text, String.toList_ofList, noBool, integer,
    n.isPaddedNumber_chars, float, ← text]
  cases n.isShort <;> cases n.nearest.isFinite <;> simp [nonempty]

end Numeral

end Overlay.Yaml
