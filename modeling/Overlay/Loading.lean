import Overlay.Conversion
import Overlay.Files
import Overlay.Merge
import Overlay.Yaml.MergeKey

namespace Overlay

open Yaml (Tree)

namespace Loading

/-- The tree of a text, with its merge keys carried out. -/
def tree (text : String) : Except Yaml.Fault Tree := do
  let tree ← Tree.read text
  tree.expandMerges

/-- The arguments of a text that comes from `origin`. A text without content has
none; any other text must be a mapping. -/
def ofText (env : Environment) (origin text : String) : Run Arguments :=
  match tree text with
  | .error fault => Run.fail (.malformedYaml origin fault)
  | .ok tree => do
    match ← Conversion.value env tree with
    | .mapping arguments => do
      Run.note (.parsed arguments.length origin)
      return arguments
    | .null => return []
    | other => Run.fail (.invalidDocument (.topLevel origin other.kind))

end Loading

def parseArguments (env : Environment) (text : String) : Run Arguments := Loading.ofText env "<string>" text

def readArguments (files : Files) (env : Environment) (path : String) : Run Arguments := do
  Run.note (.readingFile path)
  let text ← Run.ofExcept (files.readText path)
  Loading.ofText env path text

def load (files : Files) (env : Environment) (path : String) (baseline : Arguments) (ignoreUnknown : Bool) :
    Run Arguments := do
  Run.note .experimental
  let file ← readArguments files env path
  merge file baseline ignoreUnknown

end Overlay
