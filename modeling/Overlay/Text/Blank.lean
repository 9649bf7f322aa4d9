namespace Overlay

/-- The characters with the Unicode property White_Space. -/
def isBlank (c : Char) : Bool :=
  let n := c.toNat
  (0x9 ≤ n && n ≤ 0xD) || n == 0x20 || n == 0x85 || n == 0xA0 || n == 0x1680 ||
    (0x2000 ≤ n && n ≤ 0x200A) || n == 0x2028 || n == 0x2029 || n == 0x202F || n == 0x205F || n == 0x3000

namespace Text

def trimStart (text : List Char) : List Char := text.dropWhile isBlank

def trimEnd (text : List Char) : List Char := (text.reverse.dropWhile isBlank).reverse

def trim (text : List Char) : List Char := trimEnd (trimStart text)

/-- The texts before and after the first occurrence of a character. -/
def splitAtFirst (mark : Char) : List Char → Option (List Char × List Char)
  | [] => none
  | c :: rest =>
    if c = mark then some ([], rest) else (splitAtFirst mark rest).map fun (before, after) => (c :: before, after)

theorem eq_of_splitAtFirst {mark : Char} {text before after : List Char}
    (split : splitAtFirst mark text = some (before, after)) :
    text = before ++ mark :: after ∧ mark ∉ before := by
  induction text generalizing before after with
  | nil => simp [splitAtFirst] at split
  | cons c rest ih =>
    rw [splitAtFirst] at split
    split at split
    · rename_i same
      cases Option.some.inj split
      exact ⟨by simp [same], by simp⟩
    · rename_i different
      obtain ⟨⟨front, back⟩, found, equal⟩ := Option.map_eq_some_iff.mp split
      cases equal
      obtain ⟨whole, absent⟩ := ih found
      exact ⟨by simp [whole], by simp [absent, Ne.symm different]⟩

end Text

end Overlay
