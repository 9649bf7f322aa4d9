import Overlay.Run

namespace Overlay

namespace Merge

/-- The arguments of the baseline, each with the value of the file if that is
there and not null; it must be of the same kind. -/
def override (file : Arguments) : Arguments → Run Arguments
  | [] => pure []
  | (key, old) :: rest =>
    match file.get? key with
    | none | some .null => do
      let rest ← override file rest
      return (key, old) :: rest
    | some new =>
      if new.kind = old.kind then do
        Run.note (.argumentTaken key)
        let rest ← override file rest
        return (key, new) :: rest
      else Run.fail (.typeMismatch key old.kind new.kind)

/-- The baseline must have every key of the file, unless unknown ones are
ignored. -/
def checkKnown (baseline : Arguments) (ignoreUnknown : Bool) : Arguments → Run Unit
  | [] => pure ()
  | (key, _) :: rest =>
    if baseline.contains key then checkKnown baseline ignoreUnknown rest
    else if ignoreUnknown then do
      Run.note (.argumentIgnored key)
      checkKnown baseline ignoreUnknown rest
    else Run.fail (.unknownArgument key)

end Merge

/-- Merges the arguments of a file over a baseline, whose keys and kinds of
values stay. -/
def merge (file baseline : Arguments) (ignoreUnknown : Bool) : Run Arguments := do
  let merged ← Merge.override file baseline
  Merge.checkKnown baseline ignoreUnknown file
  return merged

end Overlay
