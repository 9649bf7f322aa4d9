import Overlay.Yaml.Character
import Overlay.Yaml.Fault

namespace Overlay.Yaml

/-- A scalar read from a text: what it says and how many characters it took. A
plain scalar also says whether its last line break was consumed with it. -/
structure ScalarText where
  text : List Char
  consumed : Nat
  endsLine : Bool := false

namespace ScalarText

def push (chars : List Char) (scalar : ScalarText) : ScalarText :=
  { scalar with text := chars ++ scalar.text, consumed := scalar.consumed + 1 }

def pass (scalar : ScalarText) : ScalarText := { scalar with consumed := scalar.consumed + 1 }

end ScalarText

/-- Whether a colon that is followed by this text is forbidden inside brackets.
-/
def bracketAhead : List Char → Bool
  | c :: _ => [',', '?', '[', ']', '{', '}'].contains c
  | [] => false

/-- Whether a character ends a plain scalar: a colon before a blank does, and
within brackets their punctuation. -/
def endsPlain (flow : Bool) (c : Char) (rest : List Char) : Bool :=
  (c == ':' && blankAhead rest) || (flow && [',', '[', ']', '{', '}'].contains c)

/-- Reads a plain scalar. `blanks` and `breaks` hold what was passed over since
the last word, latest first; they count only if another word follows. Outside of
brackets the lines must be indented by at least `indent`. -/
def readPlain (flow : Bool) (indent : Nat) (column : Nat) (inWord : Bool) (blanks breaks : List Char) :
    List Char → Except Fault ScalarText
  | [] => .ok ⟨[], 0, !breaks.isEmpty⟩
  | c :: rest =>
    if c = '\r' ∧ rest.head? = some '\n' then
      (readPlain flow indent column false blanks breaks rest).map ScalarText.pass
    else if isBreak c then
      (readPlain flow indent 0 false [] (normalBreak c :: breaks) rest).map ScalarText.pass
    else if isSpaceOrTab c then
      if breaks = [] then
        (readPlain flow indent (column + 1) false (c :: blanks) [] rest).map ScalarText.pass
      else if c = '\t' ∧ column < indent then .error .tabInIndentation
      else (readPlain flow indent (column + 1) false [] breaks rest).map ScalarText.pass
    else if ¬inWord ∧ (¬flow ∧ column < indent ∨ column = 0 ∧ markerAhead (c :: rest) ∨ c = '#') then
      .ok ⟨[], 0, !breaks.isEmpty⟩
    else if flow ∧ c = ':' ∧ bracketAhead rest then .error .unexpectedColon
    else if endsPlain flow c rest then .ok ⟨[], 0, !breaks.isEmpty⟩
    else
      let gap := if breaks = [] then blanks.reverse else foldBreaks breaks.reverse
      (readPlain flow indent (column + 1) true [] [] rest).map (ScalarText.push (gap ++ [c]))

end Overlay.Yaml
