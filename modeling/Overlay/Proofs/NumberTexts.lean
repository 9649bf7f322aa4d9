import Overlay.Yaml.FloatText

namespace Overlay

/-- The characters that the texts of numbers are made of. -/
def isNumeral (c : Char) : Bool := c.isDigit || ['-', '+', '.', 'e', 'i', 'n', 'f', 'a'].contains c

/-- The digits of a number in base ten are digits of the ASCII range. -/
theorem isDigit_toDigits (n : Nat) : ∀ c ∈ Nat.toDigits 10 n, c.isDigit = true := fun _ member =>
  Nat.isDigit_of_mem_toDigits (by decide) (by decide) member

theorem isNumeral_toDigits (n : Nat) : ∀ c ∈ Nat.toDigits 10 n, isNumeral c = true := by
  intro c member
  rw [isNumeral, isDigit_toDigits n c member, Bool.true_or]

theorem isNumeral_replicate (n : Nat) : ∀ c ∈ List.replicate n '0', isNumeral c = true := by
  intro c member
  rw [(List.mem_replicate.mp member).2]
  decide

theorem isNumeral_toString (n : Int) : ∀ c ∈ (toString n).toList, isNumeral c = true := by
  rw [Int.toString_eq_repr, Int.repr_eq_if]
  split
  · rw [Nat.repr_eq_ofList_toDigits, String.toList_ofList]
    exact isNumeral_toDigits _
  · simp only [String.toList_append, Nat.repr_eq_ofList_toDigits, String.toList_ofList]
    exact List.forall_mem_append.mpr ⟨List.all_eq_true.mp rfl, isNumeral_toDigits _⟩

namespace Notation

/-- A decimal written with its point in place: zeros, the digits themselves and
the point are all that it takes, wherever the point stands. -/
theorem isNumeral_positional (d : Decimal) : ∀ c ∈ positional d, isNumeral c = true := by
  have digits : ∀ c ∈ d.digits, isNumeral c = true := isNumeral_toDigits d.significand
  simp only [positional]
  split
  · rw [List.cons_append, List.cons_append, List.forall_mem_cons, List.forall_mem_cons, List.forall_mem_append]
    exact ⟨by decide, by decide, isNumeral_replicate _, digits⟩
  · split
    · rw [List.forall_mem_append, List.forall_mem_cons]
      exact ⟨fun c front => digits c (List.mem_of_mem_take front), by decide,
        fun c back => digits c (List.mem_of_mem_drop back)⟩
    · rw [List.forall_mem_append, List.forall_mem_append]
      exact ⟨⟨digits, isNumeral_replicate _⟩, List.all_eq_true.mp rfl⟩

/-- A decimal written with an exponent, in any notation. The sign of the
exponent may be left out. -/
theorem isNumeral_scientific (n : Notation) (d : Decimal) : ∀ c ∈ n.scientific d, isNumeral c = true := by
  have digits : ∀ c ∈ d.digits, isNumeral c = true := isNumeral_toDigits d.significand
  have sign : ∀ c ∈ if d.magnitude < 0 then ['-'] else if n.plusInExponent then ['+'] else [], isNumeral c = true := by
    split
    · exact List.all_eq_true.mp rfl
    · split <;> exact List.all_eq_true.mp rfl
  simp only [scientific]
  rw [List.append_assoc, List.cons_append, List.forall_mem_append, List.forall_mem_cons, List.forall_mem_append]
  refine ⟨?_, by decide, sign, isNumeral_toDigits _⟩
  split
  · exact List.all_eq_true.mp rfl
  · rename_i digit only
    rwa [only] at digits
  · rename_i digit rest _ several
    rw [several, List.forall_mem_cons] at digits
    rw [List.forall_mem_cons, List.forall_mem_cons]
    exact ⟨digits.1, by decide, digits.2⟩

theorem isNumeral_finite (n : Notation) (x : Double) : ∀ c ∈ n.finite x, isNumeral c = true := by
  have magnitude : ∀ c ∈ if x.isZero then ['0', '.', '0'] else n.decimal x.shortest, isNumeral c = true := by
    split
    · exact List.all_eq_true.mp rfl
    · unfold decimal
      split
      · exact isNumeral_positional _
      · exact isNumeral_scientific n _
  simp only [finite]
  split
  · exact List.forall_mem_cons.mpr ⟨by decide, magnitude⟩
  · exact magnitude

end Notation

/-- What floats are printed as has none of the characters that mean something in
a document, except the point and the signs. The two infinities and NaN are words
of these letters. -/
theorem Yaml.isNumeral_floatText (x : Double) : ∀ c ∈ floatText x, isNumeral c = true := by
  unfold floatText
  split
  · exact List.all_eq_true.mp rfl
  · split
    · exact floatNotation.isNumeral_finite x
    · split <;> exact List.all_eq_true.mp rfl

end Overlay
