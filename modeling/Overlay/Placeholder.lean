import Overlay.Run
import Overlay.Text.Blank

namespace Overlay

/-- The values of variables, as far as they are set. -/
abbrev Environment := String → Option String

/-- A text is made of plain characters and references to variables. -/
inductive Piece where
  | char (c : Char)
  | reference (name : String)
  deriving DecidableEq, Repr

namespace Placeholder

/-- A reference at the start of a text: a dollar sign and a name in braces. The
name is not empty and ends at the first closing brace. -/
def reference? : List Char → Option (List Char × List Char)
  | '$' :: '{' :: rest =>
    match Text.splitAtFirst '}' rest with
    | some (name, after) => if name = [] then none else some (name, after)
    | none => none
  | _ => none

theorem eq_of_reference? {text name after : List Char} (found : reference? text = some (name, after)) :
    text = '$' :: '{' :: (name ++ '}' :: after) ∧ name ≠ [] ∧ '}' ∉ name := by
  unfold reference? at found
  split at found
  · rename_i rest
    split at found
    · rename_i front back split
      split at found
      · cases found
      · rename_i nonempty
        cases Option.some.inj found
        obtain ⟨whole, absent⟩ := Text.eq_of_splitAtFirst split
        exact ⟨by rw [whole], nonempty, absent⟩
    · cases found
  · cases found

theorem length_after_lt {text name after : List Char} (found : reference? text = some (name, after)) :
    after.length < text.length := by
  rw [(eq_of_reference? found).1]
  simp only [List.length_cons, List.length_append]
  omega

/-- Splits a text from left to right; behind a reference the search goes on
after its closing brace. -/
def pieces (text : List Char) : List Piece :=
  match text with
  | [] => []
  | c :: rest =>
    match found : reference? (c :: rest) with
    | some (name, after) =>
      have := length_after_lt found
      .reference (String.ofList name) :: pieces after
    | none => .char c :: pieces rest
termination_by text.length
decreasing_by
  · assumption
  · exact Nat.lt_succ_self rest.length

def names (text : String) : List String :=
  (pieces text.toList).filterMap fun
    | .char _ => none
    | .reference name => some name

/-- Puts the values of variables in the place of their references. A value is
not searched for references. -/
def expand (env : Environment) : List Piece → Run (List Char)
  | [] => pure []
  | .char c :: rest => do
    let tail ← expand env rest
    return c :: tail
  | .reference name :: rest =>
    match env name with
    | none => Run.fail (.missingVariable name)
    | some value => do
      Run.note (.variableResolved name)
      let tail ← expand env rest
      return value.toList ++ tail

def substitute (env : Environment) (text : String) : Run String := do
  let expanded ← expand env (pieces text.toList)
  return String.ofList expanded

end Placeholder

end Overlay
