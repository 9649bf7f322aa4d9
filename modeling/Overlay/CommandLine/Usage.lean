import Overlay.CommandLine.Switch

namespace Overlay.CommandLine

def versionText : String := "yaml-args 0.3.1\n"

def helpText : String :=
  "Merge YAML arguments over a baseline\n\n" ++
  "Usage: yaml-args [--log-level LEVEL] merge|check [OPTIONS] CONFIG\n\n" ++
  "  -d, --defaults FILE    YAML file with the baseline arguments\n" ++
  "  -a, --arg KEY=VALUE    set a baseline argument\n" ++
  "      --ignore-unknown   drop keys that have no baseline argument\n" ++
  "      --env-file FILE    file with environment variables [default: .env]\n" ++
  "  -e, --env KEY=VALUE    set an environment variable\n" ++
  "  -f, --format FORMAT    yaml or json, for merge [default: yaml]\n" ++
  "      --log-level LEVEL  trace, debug, info, warn or error [default: info]\n" ++
  "  -h, --help             print help\n" ++
  "  -V, --version          print the version\n"

namespace UsageFault

/-- Help and version are answers; all else is misuse. -/
def exitCode : UsageFault → UInt8
  | .helpWanted | .versionWanted => 0
  | _ => 2

def output : UsageFault → String
  | .helpWanted => helpText
  | .versionWanted => versionText
  | _ => ""

def errorOutput : UsageFault → String
  | .helpWanted | .versionWanted => ""
  | .missingArgument => "error: the path of the configuration is missing\n\n" ++ helpText
  | .unknownWord => "error: unexpected argument\n\n" ++ helpText
  | .unknownCommand => "error: unrecognized command\n\n" ++ helpText
  | .missingCommand => helpText
  | .invalidValue => "error: invalid or missing value of an option\n\n" ++ helpText
  | .repeatedSwitch => "error: an option is given more than once\n\n" ++ helpText
  | .unexpectedValue => "error: a value is given to an option that has none\n\n" ++ helpText

end UsageFault

end Overlay.CommandLine
