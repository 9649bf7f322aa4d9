import Overlay.Yaml.Scalar.Plain

namespace Overlay.Yaml

/-- What stands between two words of a quoted scalar, latest first: blanks, or
line breaks, or the line breaks behind one that was escaped. -/
inductive Gap where
  | blanks (chars : List Char)
  | breaks (chars : List Char)
  | continued (chars : List Char)

namespace Gap

def addBlank (c : Char) : Gap → Gap
  | .blanks chars => .blanks (c :: chars)
  | gap => gap

def addBreak (c : Char) : Gap → Gap
  | .blanks _ => .breaks [normalBreak c]
  | .breaks chars => .breaks (normalBreak c :: chars)
  | .continued chars => .continued (normalBreak c :: chars)

def text : Gap → List Char
  | .blanks chars => chars.reverse
  | .breaks chars => foldBreaks chars.reverse
  | .continued chars => chars.reverse

end Gap

def escaped? : Char → Option Char
  | '0' => some '\x00'
  | 'a' => some '\x07'
  | 'b' => some '\x08'
  | 't' | '\t' => some '\t'
  | 'n' => some '\n'
  | 'v' => some '\x0B'
  | 'f' => some '\x0C'
  | 'r' => some '\r'
  | 'e' => some '\x1B'
  | ' ' => some ' '
  | '"' => some '"'
  | '/' => some '/'
  | '\\' => some '\\'
  | 'N' => some '\x85'
  | '_' => some '\xA0'
  | 'L' => some '\u2028'
  | 'P' => some '\u2029'
  | _ => none

def escapeLength? : Char → Option Nat
  | 'x' => some 2
  | 'u' => some 4
  | 'U' => some 8
  | _ => none

def hexDigit? (c : Char) : Option Nat :=
  if c.isDigit then some (c.toNat - '0'.toNat)
  else if 'a' ≤ c ∧ c ≤ 'f' then some (c.toNat - 'a'.toNat + 10)
  else if 'A' ≤ c ∧ c ≤ 'F' then some (c.toNat - 'A'.toNat + 10)
  else none

/-- The character with a code point; surrogates have none. -/
def charOfCode? (code : Nat) : Option Char := if code.isValidChar then some (Char.ofNat code) else none

def readSingle (column : Nat) (gap : Gap) : List Char → Except Fault ScalarText
  | [] => .error .unfinishedQuote
  | c :: rest =>
    if c = '\r' ∧ rest.head? = some '\n' then (readSingle column gap rest).map ScalarText.pass
    else if isBreak c then (readSingle 0 (gap.addBreak c) rest).map ScalarText.pass
    else if isSpaceOrTab c then (readSingle (column + 1) (gap.addBlank c) rest).map ScalarText.pass
    else if column = 0 ∧ markerAhead (c :: rest) then .error .markerInQuote
    else if c = '\'' then
      match rest with
      | '\'' :: rest =>
        (readSingle (column + 2) (.blanks []) rest).map fun scalar => (scalar.push (gap.text ++ ['\''])).pass
      | _ => .ok ⟨gap.text, 1, false⟩
    else (readSingle (column + 1) (.blanks []) rest).map (ScalarText.push (gap.text ++ [c]))

inductive DoubleState where
  | content (gap : Gap)
  | escape
  | hex (digits : Nat) (code : Nat)

def readDouble (column : Nat) (state : DoubleState) : List Char → Except Fault ScalarText
  | [] => .error .unfinishedQuote
  | c :: rest =>
    match state with
    | .content gap =>
      if c = '\r' ∧ rest.head? = some '\n' then (readDouble column state rest).map ScalarText.pass
      else if isBreak c then (readDouble 0 (.content (gap.addBreak c)) rest).map ScalarText.pass
      else if isSpaceOrTab c then (readDouble (column + 1) (.content (gap.addBlank c)) rest).map ScalarText.pass
      else if column = 0 ∧ markerAhead (c :: rest) then .error .markerInQuote
      else if c = '"' then .ok ⟨gap.text, 1, false⟩
      else if c = '\\' then (readDouble (column + 1) .escape rest).map (ScalarText.push gap.text)
      else (readDouble (column + 1) (.content (.blanks [])) rest).map (ScalarText.push (gap.text ++ [c]))
    | .escape =>
      if c = '\r' ∧ rest.head? = some '\n' then (readDouble column state rest).map ScalarText.pass
      else if isBreak c then (readDouble 0 (.content (.continued [])) rest).map ScalarText.pass
      else
        match escaped? c, escapeLength? c with
        | some meant, _ => (readDouble (column + 1) (.content (.blanks [])) rest).map (ScalarText.push [meant])
        | none, some digits => (readDouble (column + 1) (.hex digits 0) rest).map ScalarText.pass
        | none, none => .error .unknownEscape
    | .hex digits code =>
      match hexDigit? c with
      | none => .error .malformedEscape
      | some digit =>
        let code := 16 * code + digit
        if 1 < digits then (readDouble (column + 1) (.hex (digits - 1) code) rest).map ScalarText.pass
        else
          match charOfCode? code with
          | none => .error .malformedEscape
          | some meant => (readDouble (column + 1) (.content (.blanks [])) rest).map (ScalarText.push [meant])

end Overlay.Yaml
