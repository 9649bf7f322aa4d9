import Overlay.Baseline
import Overlay.Json
import Overlay.Terminal
import Overlay.Yaml.Printer

namespace Overlay

/-- How an invocation ends, or which notice it gives for ever. -/
inductive Ending where
  | success
  | failure (failure : Failure)
  | never (again : Notice)

/-- What an invocation prints, the notices that it gives and how it ends. -/
structure Report where
  output : String
  notices : List Notice
  ending : Ending

/-- What goes to the error stream: a text, and one that follows it again and
again. -/
structure ErrorOutput where
  text : String
  again : String

namespace Report

/-- There is no exit code without an end. -/
def exitCode? (report : Report) : Option UInt8 :=
  match report.ending with
  | .success => some 0
  | .failure _ => some 1
  | .never _ => none

/-- The lines of the notices up to a level. -/
def shownLines (level : Level) (notices : List Notice) : String :=
  String.join ((notices.filter fun notice => notice.level.rank ≤ level.rank).map Terminal.noticeLine)

/-- The notices up to a level, then the failure in red. -/
def errorOutput (report : Report) (level : Level) (coloured : Bool) : ErrorOutput :=
  let shown := shownLines level report.notices
  match report.ending with
  | .success => ⟨shown, ""⟩
  | .failure failure => ⟨shown ++ Terminal.paint coloured .red failure.message ++ "\n", ""⟩
  | .never again => ⟨shown, shownLines level [again]⟩

end Report

def Format.print (format : Format) (arguments : Arguments) : String :=
  match format with
  | .yaml => Yaml.print (.mapping arguments)
  | .json => Json.print .pretty (.mapping arguments) ++ "\n"

/-- The lines that tell what the configuration changes. -/
def Loaded.summary (loaded : Loaded) (config : String) (coloured : Bool) : String :=
  let keys := loaded.overridden
  let changes := keys.map fun key => "  " ++ Terminal.paint coloured .yellow "override" ++ " " ++ key ++ "\n"
  let verdict := config ++ " is valid: " ++ toString loaded.merged.length ++ " arguments, " ++
    toString keys.length ++ " overridden by the config file"
  String.join changes ++ Terminal.paint coloured .green verdict ++ "\n"

def Command.heading (command : Command) (options : Options) : String :=
  match command with
  | .merge _ => ""
  | .check => Terminal.box ("Checking " ++ options.config)

def Command.result (command : Command) (options : Options) (coloured : Bool) (loaded : Loaded) : String :=
  match command with
  | .merge format => format.print loaded.merged
  | .check => loaded.summary options.config coloured

def Invocation.report (invocation : Invocation) (files : Files) (process : Environment) (coloured : Bool) : Report :=
  let options := invocation.options
  let heading := invocation.command.heading options
  let first := .logLevel invocation.level :: options.notices
  match options.load files process with
  | .ends ⟨notices, .ok loaded⟩ =>
    ⟨heading ++ invocation.command.result options coloured loaded, first ++ notices, .success⟩
  | .ends ⟨notices, .error failure⟩ => ⟨heading, first ++ notices, .failure failure⟩
  | .endless notices again => ⟨heading, first ++ notices, .never again⟩

end Overlay
