import Overlay.Text.Blank

namespace Overlay

/-- A named text written `KEY=VALUE`. -/
structure Assignment where
  key : String
  value : String
  deriving DecidableEq, Repr

namespace Assignment

/-- The key is what stands before the first equals sign, without white space at
its ends; it must not be empty. The value is everything after that sign. -/
def parse? (text : String) : Option Assignment :=
  match Text.splitAtFirst '=' text.toList with
  | none => none
  | some (before, after) =>
    let key := Text.trim before
    if key = [] then none else some ⟨String.ofList key, String.ofList after⟩

end Assignment

end Overlay
