import Overlay.Yaml.ScalarStyle

namespace Overlay.Yaml

def spaces (count : Nat) : List Char := List.replicate count ' '

/-- Indents what follows a line break; `lineStart` says whether one was just
written. -/
def indentLines (indent : Nat) (lineStart : Bool) : List Char → List Char
  | [] => []
  | c :: rest =>
    if isBreak c then c :: indentLines indent true rest
    else (if lineStart then spaces indent else []) ++ c :: indentLines indent false rest

def singleQuoted (indent : Nat) (text : List Char) : List Char :=
  let doubled := text.flatMap fun c => if c = '\'' then ['\'', '\''] else [c]
  let closing := if text.getLast?.any isBreak then spaces indent else []
  '\'' :: indentLines indent false doubled ++ closing ++ ['\'']

def upperHex (width n : Nat) : List Char :=
  (List.range width).map fun k => (Nat.digitChar (n / Nat.pow 16 (width - 1 - k) % 16)).toUpper

def escape (c : Char) : List Char :=
  match c with
  | '\x00' => ['\\', '0']
  | '\x07' => ['\\', 'a']
  | '\x08' => ['\\', 'b']
  | '\t' => ['\\', 't']
  | '\n' => ['\\', 'n']
  | '\x0B' => ['\\', 'v']
  | '\x0C' => ['\\', 'f']
  | '\r' => ['\\', 'r']
  | '\x1B' => ['\\', 'e']
  | '"' => ['\\', '"']
  | '\\' => ['\\', '\\']
  | '\x85' => ['\\', 'N']
  | '\u2028' => ['\\', 'L']
  | '\u2029' => ['\\', 'P']
  | _ =>
    let n := c.toNat
    if isPrintable c then [c]
    else if n ≤ 0xFF then '\\' :: 'x' :: upperHex 2 n
    else if n ≤ 0xFFFF then '\\' :: 'u' :: upperHex 4 n
    else '\\' :: 'U' :: upperHex 8 n

def doubleQuoted (text : List Char) : List Char := '"' :: text.flatMap escape ++ ['"']

/-- The indicators of a literal scalar: the indentation if the text starts with
a space or a break, and what becomes of the line breaks at its end. -/
def literalHeader (text : List Char) : List Char :=
  let indentation := if text.head?.any isSpaceOrBreak then ['2'] else []
  let chomping := match text.reverse with
    | [] => ['-']
    | last :: before =>
      if !isBreak last then ['-'] else if before.head?.all isBreak then ['+'] else []
  '|' :: indentation ++ chomping

def literal (indent : Nat) (text : List Char) : List Char :=
  literalHeader text ++ '\n' :: indentLines indent true text

def stringText (indent : Nat) (text : String) : List Char :=
  let chars := text.toList
  match ScalarStyle.ofString text with
  | .plain => chars
  | .singleQuoted => singleQuoted indent chars
  | .doubleQuoted => doubleQuoted chars
  | .literal => literal indent chars

end Overlay.Yaml
