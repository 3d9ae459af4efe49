import NameCheck.Report.Structured

/-!
The texts that explain the commands.
-/
namespace NameCheck.Command

def programName : String := "namelint"

def versionText : String := programName ++ " " ++ Report.version ++ "\n"

def programUsage : String := "Usage: namelint [OPTIONS] <COMMAND>\n"

def commandList : String :=
  "Commands:\n" ++
  "  check    Check JavaScript/TypeScript files for naming issues\n" ++
  "  init     Create a namelint.toml in the current directory\n" ++
  "  explain  Show the description and examples of a rule\n" ++
  "  help     Print this message or the help of the given subcommand(s)\n"

def logLevelLine : String :=
  "      --log-level <LOG_LEVEL>  [default: warn] [possible values: trace, debug, info, warn, error]\n"

def logFormLine : String := "      --log-json               Emit logs as JSON lines\n"

def helpLine : String := "  -h, --help                   Print help\n"

def shortHelp : String :=
  "Naming-convention checks for JavaScript/TypeScript\n\n" ++ programUsage ++ "\n" ++ commandList ++
  "\nOptions:\n" ++ logLevelLine ++ logFormLine ++
  "  -h, --help                   Print help (see more with '--help')\n" ++
  "  -V, --version                Print version\n"

def longHelp : String :=
  "namelint checks JavaScript and TypeScript sources for naming conventions.\n\n" ++
  "It reports anonymous hook callbacks, async functions without an 'Async'\n" ++
  "suffix, lower-case module constants and SVG imports not named as icons.\n\n" ++ programUsage ++ "\n" ++ commandList ++
  "\nOptions:\n" ++
  "      --log-level <LOG_LEVEL>\n          [default: warn]\n" ++
  "          [possible values: trace, debug, info, warn, error]\n\n" ++
  "      --log-json\n          Emit logs as JSON lines\n\n" ++
  "  -h, --help\n          Print help (see a summary with '-h')\n\n" ++
  "  -V, --version\n          Print version\n"

def checkHelp : String :=
  "Check JavaScript/TypeScript files for naming issues\n\nUsage: namelint check [OPTIONS] <PATH>\n\n" ++
  "Arguments:\n  <PATH>  File or directory to check\n\nOptions:\n" ++
  "  -f, --format <FORMAT>        pretty, text or json [default: pretty]\n" ++
  "      --fail-on-warnings       Exit with status 1 on warnings too\n" ++
  "      --severity <LEVEL>       Hide diagnostics below this severity (error, warning, info, hint)\n" ++
  logLevelLine ++ "      --no-color               \n" ++ logFormLine ++ helpLine

def initHelp : String :=
  "Create a namelint.toml in the current directory\n\nUsage: namelint init [OPTIONS]\n\nOptions:\n" ++
  "  -f, --force                  Replace an existing namelint.toml\n" ++ logLevelLine ++ logFormLine ++ helpLine

def explainHelp : String :=
  "Show the description and examples of a rule\n\nUsage: namelint explain [OPTIONS] <RULE>\n\n" ++
  "Arguments:\n  <RULE>  Rule id or name to explain (e.g., \"H001\", \"svg-file-name\")\n\nOptions:\n" ++
  logLevelLine ++ logFormLine ++ helpLine

def helpHelp : String :=
  "Print this message or the help of the given subcommand(s)\n\nUsage: namelint help [COMMAND]\n\n" ++ commandList

end NameCheck.Command
