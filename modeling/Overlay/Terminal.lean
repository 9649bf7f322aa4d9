import Overlay.Run
import Overlay.Text.Width

namespace Overlay.Terminal

inductive Colour where
  | red
  | green
  | yellow
  deriving DecidableEq

def Colour.code : Colour → List Char
  | .red => "\x1b[31m".toList
  | .green => "\x1b[32m".toList
  | .yellow => "\x1b[33m".toList

def reset : List Char := "\x1b[0m".toList

/-- Takes up a colour again behind each place where the text resets it; `skip`
characters are already written. -/
def recolour (code : List Char) (skip : Nat) : List Char → List Char
  | [] => []
  | c :: rest =>
    match skip with
    | skip + 1 => recolour code skip rest
    | 0 =>
      if reset.isPrefixOf (c :: rest) then reset ++ code ++ recolour code (reset.length - 1) rest
      else c :: recolour code 0 rest

def paint (coloured : Bool) (colour : Colour) (text : String) : String :=
  if coloured then String.ofList (colour.code ++ recolour colour.code 0 text.toList ++ reset) else text

/-- Whether colours are wanted: a variable can force them, another one forbid
them, and else they are used on a terminal unless a third one is zero. -/
def coloursWanted (process : String → Option String) (onTerminal : Bool) : Bool :=
  if (process "CLICOLOR_FORCE").any (· != "0") then true
  else if (process "NO_COLOR").isSome then false
  else onTerminal && (process "CLICOLOR").all (· != "0")

def lines : List Char → List (List Char)
  | [] => [[]]
  | c :: rest =>
    if c = '\n' then [] :: lines rest
    else
      match lines rest with
      | [] => [[c]]
      | line :: more => (c :: line) :: more

/-- The rows of a frame around lines, without colours: a border, one row per
line, filled up to the width of the widest line, and a border. -/
def boxRows (text : List (List Char)) : List (List Char) :=
  let width := (text.map Text.width).foldl max 0
  let border := List.replicate (width + 2) '─'
  let row (line : List Char) :=
    '│' :: ' ' :: line ++ List.replicate (width - Text.width line) ' ' ++ [' ', '│']
  ('┌' :: border ++ ['┐']) :: text.map row ++ ['└' :: border ++ ['┘']]

/-- A message in a frame, which is yellow whether or not colours are wanted. -/
def box (message : String) : String :=
  String.ofList ((boxRows (lines message.toList)).flatMap fun row =>
    "\x1b[93m".toList ++ row ++ reset ++ ['\n'])

def indentFurther (text : List Char) : List Char :=
  text.flatMap fun c => if c = '\n' then "\n    ".toList else [c]

/-- A notice as it is written to the log, the level filled up to five columns.
-/
def noticeLine (notice : Notice) : String :=
  let level := notice.level.name
  let padding := String.ofList (List.replicate (5 - level.length) ' ')
  "[" ++ level ++ padding ++ " " ++ notice.source ++ "] " ++ String.ofList (indentFurther notice.text.toList) ++ "\n"

end Overlay.Terminal
