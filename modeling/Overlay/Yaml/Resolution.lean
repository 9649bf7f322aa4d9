import Overlay.Double.Nearest
import Overlay.Yaml.Scalar.Quoted

namespace Overlay.Yaml

/-- What a plain scalar means. Integers may have up to 128 bits. -/
inductive PlainMeaning where
  | null
  | bool (value : Bool)
  | integer (value : Int)
  | float (value : Double)
  | string
  deriving DecidableEq

def nullWords : List String := ["~", "null", "Null", "NULL"]

def bool? (text : List Char) : Option Bool :=
  let word := String.ofList text
  if ["true", "True", "TRUE"].contains word then some true
  else if ["false", "False", "FALSE"].contains word then some false
  else none

/-- The value of digits in a base from two to sixteen; there must be one at
least. -/
def digitsValue? (base : Nat) (digits : List Char) : Option Nat :=
  if digits = [] then none
  else digits.foldl (fun value c => do
    let value ← value
    let digit ← hexDigit? c
    if digit < base then some (base * value + digit) else none) (some 0)

def radixValue? : List Char → Option Nat
  | '0' :: 'x' :: digits => digitsValue? 16 digits
  | '0' :: 'o' :: digits => digitsValue? 8 digits
  | '0' :: 'b' :: digits => digitsValue? 2 digits
  | _ => none

/-- Whether a text is made of digits but starts with a needless zero. -/
def isPaddedNumber (text : List Char) : Bool :=
  let digits := match text with
    | '-' :: rest => rest
    | '+' :: rest => rest
    | rest => rest
  1 < digits.length && digits.head? == some '0' && digits.all Char.isDigit

def magnitude? (digits : List Char) : Option Nat :=
  match radixValue? digits with
  | some value => some value
  | none => if isPaddedNumber digits then none else digitsValue? 10 digits

def signedInteger? : List Char → Option Int
  | '-' :: digits => (magnitude? digits).map fun value => -(value : Int)
  | '+' :: digits => (magnitude? digits).map fun value => (value : Int)
  | digits => (magnitude? digits).map fun value => (value : Int)

/-- An integer that fits into 128 bits, with or without sign. -/
def integer? (text : List Char) : Option Int :=
  (signedInteger? text).filter fun value =>
    -0x80000000000000000000000000000000 ≤ value ∧ value < 0x100000000000000000000000000000000

/-- A finite number, or a word for an infinity or for a NaN. -/
def float? (text : List Char) : Option Double :=
  let word := String.ofList text
  if [".inf", ".Inf", ".INF", "+.inf", "+.Inf", "+.INF"].contains word then some (.infinity false)
  else if ["-.inf", "-.Inf", "-.INF"].contains word then some (.infinity true)
  else if [".nan", ".NaN", ".NAN"].contains word then some .nan
  else (Double.read? text).filter Double.isFinite

/-- What a plain scalar means; numbers with needless zeros are strings. -/
def meaning (text : String) : PlainMeaning :=
  let chars := text.toList
  if text = "" ∨ nullWords.contains text then .null
  else
    match bool? chars with
    | some value => .bool value
    | none =>
      match integer? chars with
      | some value => .integer value
      | none =>
        if isPaddedNumber chars then .string
        else
          match float? chars with
          | some value => .float value
          | none => .string

end Overlay.Yaml
