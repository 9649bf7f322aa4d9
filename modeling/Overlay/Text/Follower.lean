import Overlay.Text.Columns
import Overlay.Text.Emoji

namespace Overlay.Text

/-- What stands behind a character, as far as it decides whether the two are
drawn as one. Where it is joined, a zero width joiner comes first. -/
inductive Follower where
  | other
  | skinTone
  | flagLetter
  | flagLetters
  | emoji
  | joinedEmoji
  | joinedKeycap
  | joinedFlagLetter
  | joinedFlagPairs
  | joinedOddFlagLetters
  | tagEnd
  | tagLetters (count : Nat)
  | tagDigits (count : Nat)
  | alef
  | lamed
  | joinedLamed
  | buginese
  | joinedBuginese
  | joinedBugineseVowel
  | tifinagh
  | joinedTifinagh
  | linkedTifinagh
  | lisuTone
  | oldTurkic
  | joinedOldTurkic
  | khmer
  | kiratRaiE
  | kiratRaiAi
  deriving DecidableEq, Repr

namespace Follower

/-- Whether the follower is a letter that can be drawn as one with the letter
before it, also where a selector or a joiner stands between the two. -/
def isLetter : Follower → Bool
  | .alef | .lamed | .joinedLamed | .buginese | .joinedBuginese | .joinedBugineseVowel | .tifinagh
  | .joinedTifinagh | .linkedTifinagh | .lisuTone | .oldTurkic | .joinedOldTurkic | .khmer => true
  | _ => false

def join : Follower → Follower
  | .lamed => .joinedLamed
  | .buginese => .joinedBuginese
  | .tifinagh => .joinedTifinagh
  | .oldTurkic => .joinedOldTurkic
  | letter => letter

end Follower

def isAlef (c : Char) : Bool :=
  CharRanges.contains [(0x622, 0x623), (0x625, 0x625), (0x627, 0x627), (0x671, 0x673), (0x675, 0x675),
    (0x773, 0x774), (0x870, 0x882)] c

def isLam (c : Char) : Bool :=
  CharRanges.contains [(0x644, 0x644), (0x6B5, 0x6B8), (0x76A, 0x76A), (0x8A6, 0x8A6), (0x8C7, 0x8C7)] c

/-- The letters of Khmer that can be written below another one. -/
def isKhmerSubscript (c : Char) : Bool :=
  CharRanges.contains [(0x1780, 0x1782), (0x1784, 0x1787), (0x1789, 0x178C), (0x178E, 0x1793), (0x1795, 0x1798),
    (0x179B, 0x179D), (0x17A0, 0x17A0), (0x17A2, 0x17A2), (0x17A7, 0x17A7), (0x17AB, 0x17AC), (0x17AF, 0x17AF)] c

def isTifinagh (c : Char) : Bool := CharRanges.contains [(0x2D31, 0x2D65), (0x2D6F, 0x2D6F)] c

/-- Marks that no letters take notice of. -/
def isIgnorableMark (c : Char) : Bool :=
  CharRanges.contains [(0x34F, 0x34F), (0x17B4, 0x17B5), (0x180B, 0x180D), (0x180F, 0x180F), (0xFE00, 0xFE0F),
    (0xE0100, 0xE01EF)] c

def Follower.ofChar (c : Char) : Follower :=
  if isAlef c then .alef
  else if c = '\u05DC' then .lamed
  else if c = '\u1A10' then .buginese
  else if isTifinagh c then .tifinagh
  else if c = '\uA4FC' ∨ c = '\uA4FD' then .lisuTone
  else if c.toNat = 0x10C03 then .oldTurkic
  else if isKhmerSubscript c then .khmer
  else if c.toNat = 0x16D67 then .kiratRaiE
  else if c.toNat = 0x16D68 then .kiratRaiAi
  else if isFlagLetter c then .flagLetter
  else if isSkinTone c then .skinTone
  else if isEmoji c then .emoji
  else .other

/-- The columns that a character adds to a letter behind it that it is drawn as
one with, and what the two are to the character before them. -/
def letterRule (c : Char) : Follower → Option (Int × Follower)
  | .alef =>
    if isLam c then some (0, .other)
    else if isTransparent c then some (0, .alef)
    else none
  | letter =>
    if c = joiner then some (0, letter.join)
    else if isIgnorableMark c then some (0, letter)
    else
      match letter with
      | .joinedLamed => if c = '\u05D0' then some (0, .other) else none
      | .khmer => if c = '\u17D2' then some (-1, .other) else none
      | .joinedBuginese => if c = '\u1A17' then some (0, .joinedBugineseVowel) else none
      | .joinedBugineseVowel => if c = '\u1A15' then some (0, .other) else none
      | .tifinagh => if c = '\u2D7F' then some (1, .linkedTifinagh) else none
      | .joinedTifinagh =>
        if c = '\u2D7F' then some (1, .linkedTifinagh)
        else if isTifinagh c then some (0, .other)
        else none
      | .linkedTifinagh => if isTifinagh c then some (-1, .other) else none
      | .lisuTone => if CharRanges.contains [(0xA4F8, 0xA4FB)] c then some (0, .other) else none
      | .joinedOldTurkic => if c.toNat = 0x10C32 then some (0, .other) else none
      | _ => none

/-- The columns that a character adds to an emoji behind it that it is drawn as
one with, and what the two are to the character before them. An odd flag letter
in front of pairs changes how all of them are paired. -/
def emojiRule (c : Char) : Follower → Option (Int × Follower)
  | .skinTone =>
    if takesSkinTone c then some (0, .emoji)
    else if c = joiner then some (0, .joinedEmoji)
    else none
  | .flagLetter => if isFlagLetter c then some (1, .flagLetters) else none
  | .flagLetters =>
    if isFlagLetter c then some (1, .flagLetters)
    else if c = joiner then some (0, .joinedEmoji)
    else none
  | .emoji => if c = joiner then some (0, .joinedEmoji) else none
  | .joinedEmoji =>
    if isKeycap c then some (0, .joinedKeycap)
    else if isFlagLetter c then some (1, .joinedFlagLetter)
    else if isSkinTone c then some (0, .skinTone)
    else if isTagEnd c then some (0, .tagEnd)
    else if isEmoji c then some (0, .emoji)
    else none
  | .joinedFlagLetter => if isFlagLetter c then some (-1, .joinedFlagPairs) else none
  | .joinedFlagPairs =>
    if isFlagLetter c then some (3, .joinedOddFlagLetters)
    else if c = joiner then some (0, .joinedEmoji)
    else none
  | .joinedOddFlagLetters =>
    if isFlagLetter c then some (-1, .joinedFlagPairs)
    else if c = joiner then some (0, .joinedEmoji)
    else none
  | .tagEnd =>
    if isTagLetter c then some (0, .tagLetters 1)
    else if isTagDigit c then some (0, .tagDigits 1)
    else none
  | .tagLetters count =>
    if isTagLetter c ∧ count < 6 then some (0, .tagLetters (count + 1))
    else if isTagDigit c ∧ count < 5 then some (0, .tagDigits 1)
    else if isTagFlag c ∧ 3 ≤ count then some (0, .emoji)
    else none
  | .tagDigits count =>
    if isTagDigit c ∧ count < 3 then some (0, .tagDigits (count + 1))
    else if isTagFlag c ∧ count = 3 then some (0, .emoji)
    else none
  | _ => none

/-- The columns that a vowel of Kirat Rai adds in front of another one, where
the two spell a longer vowel, and what they are to the character before them. E
in front of e spells ai, aa in front of e spells o, and aa in front of ai, or o
in front of e, spells au. -/
def vowelRule (c : Char) : Follower → Option (Int × Follower)
  | .kiratRaiE =>
    if c.toNat = 0x16D63 ∨ c.toNat = 0x16D69 then some (0, .other)
    else if c.toNat = 0x16D67 then some (0, .kiratRaiAi)
    else if c.toNat = 0x16D68 then some (1, .kiratRaiE)
    else none
  | .kiratRaiAi => if c.toNat = 0x16D63 then some (0, .other) else none
  | _ => none

end Overlay.Text
