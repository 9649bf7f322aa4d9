import Overlay.Text.Follower

namespace Overlay.Text

/-- What stands behind a character, and whether a variation selector asks for a
style of that character. -/
structure Surroundings where
  follower : Follower
  emojiStyle : Bool := false
  textStyle : Bool := false
  deriving DecidableEq, Repr

namespace Surroundings

def none : Surroundings := ⟨.other, false, false⟩

/-- Asks for the emoji style. What follows is kept in mind if it is a letter or
a joined emoji. -/
def askEmojiStyle (surroundings : Surroundings) : Surroundings :=
  match surroundings.follower with
  | .joinedEmoji => ⟨.joinedEmoji, true, false⟩
  | .joinedKeycap => ⟨.joinedKeycap, true, false⟩
  | follower => if follower.isLetter then { surroundings with emojiStyle := true } else ⟨.other, true, false⟩

/-- Asks for the text style. What follows is kept in mind if it is a letter. -/
def askTextStyle (surroundings : Surroundings) : Surroundings :=
  if surroundings.follower.isLetter then { surroundings with textStyle := true } else ⟨.other, false, true⟩

/-- Gives up the emoji style, which the character before the selector does not
have. -/
def dropEmojiStyle (surroundings : Surroundings) : Surroundings :=
  if !surroundings.emojiStyle then surroundings
  else if surroundings.follower.isLetter then { surroundings with emojiStyle := false }
  else none

/-- The columns of an emoji in its emoji style: it takes none where a joined
emoji follows. -/
def styledColumns (surroundings : Surroundings) : Int :=
  match surroundings.follower with
  | .joinedEmoji | .joinedKeycap => 0
  | _ => 2

end Surroundings

/-- The columns that a character adds where no style is asked for, and what it
is to the character before it. -/
def plainStep (c : Char) (follower : Follower) : Int × Follower :=
  let joined :=
    if follower.isLetter then letterRule c follower else (emojiRule c follower).or (vowelRule c follower)
  joined.getD (columns c, .ofChar c)

/-- The columns that a character adds to what stands behind it, and the
surroundings of the character before it. -/
def step (c : Char) (behind : Surroundings) : Int × Surroundings :=
  if behind.emojiStyle && hasEmojiStyle c then (behind.styledColumns, ⟨.emoji, false, false⟩)
  else
    let behind := behind.dropEmojiStyle
    if c ≤ '\u00A0' then (1, .none)
    else if c = emojiSelector then (0, behind.askEmojiStyle)
    else if c = textSelector then (0, behind.askTextStyle)
    else if behind.textStyle && hasTextStyle c then (1, .none)
    else
      let (added, follower) := plainStep c behind.follower
      (added, ⟨follower, false, false⟩)

/-- The columns of a text in front of something, and the surroundings of a
character before the text. -/
def measure (behind : Surroundings) : List Char → Int × Surroundings
  | [] => (0, behind)
  | c :: rest =>
    let (taken, behind) := measure behind rest
    let (added, behind) := step c behind
    (taken + added, behind)

/-- The number of terminal columns of a text that has no line feed. -/
def width (text : List Char) : Nat := (measure .none text).1.toNat

@[simp] theorem width_nil : width [] = 0 := rfl

/-- A text takes the columns of its parts, the first of them measured in front
of the second. -/
theorem measure_append (behind : Surroundings) (front back : List Char) :
    measure behind (front ++ back) =
      ((measure behind back).1 + (measure (measure behind back).2 front).1,
        (measure (measure behind back).2 front).2) := by
  induction front with
  | nil => simp [measure]
  | cons c front ih => simp only [List.cons_append, measure, ih, Int.add_assoc]

end Overlay.Text
