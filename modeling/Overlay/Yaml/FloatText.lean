import Overlay.Double.Notation

namespace Overlay.Yaml

/-- Floats from `0.00001` to below ten to the sixteenth are written without
exponent. -/
def floatNotation : Notation := ⟨-5, 16, false⟩

def floatText (x : Double) : List Char :=
  if x.isNaN then ['.', 'n', 'a', 'n']
  else if x.isFinite then floatNotation.finite x
  else if x.isNegative then ['-', '.', 'i', 'n', 'f']
  else ['.', 'i', 'n', 'f']

end Overlay.Yaml
