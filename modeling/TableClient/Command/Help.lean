import TableClient.Command.Arguments

/-!
# Help

The texts that explain the program and its commands.

## Main definitions

* `Topic.text`: The help about a topic.
* `versionText`: The name and the version of the program.
-/

namespace TableClient

namespace Command

/-- Lines as a text. -/
def textOfLines (lines : List String) : String :=
  String.join (lines.map (· ++ "\n"))

/-- The name and the version of the program. -/
def versionText : String :=
  "appsheet 0.2.0\n"

/-- The help about the program. -/
def programHelp : List String :=
  [
    "AppSheet API client - compile, check and run table selectors",
    "",
    "Usage: appsheet [OPTIONS] <COMMAND>",
    "",
    "Commands:",
    "  render  Compile a JSON query or condition expression into a formula",
    "  check   Check that the brackets of a selector formula balance",
    "  find    Read rows from a table (APPSHEET_APP_ID and APPSHEET_ACCESS_KEY must be set)",
    "  help    Print this message or the help of the given subcommand(s)",
    "",
    "Options:",
    "  -v, --verbose  Log requests and response details",
    "  -h, --help     Print help",
    "  -V, --version  Print version"
  ]

/-- The help about rendering. -/
def renderHelp : List String :=
  [
    "Compile a JSON query or condition expression into a formula",
    "",
    "Usage: appsheet render [OPTIONS] [EXPRESSION]",
    "",
    "Arguments:",
    "  [EXPRESSION]  The JSON expression (reads from stdin if not provided)",
    "",
    "Options:",
    "  -v, --verbose  Log requests and response details",
    "  -h, --help     Print help"
  ]

/-- The help about checking. -/
def checkHelp : List String :=
  [
    "Check that the brackets of a selector formula balance",
    "",
    "Usage: appsheet check [OPTIONS] <SELECTOR>",
    "",
    "Arguments:",
    "  <SELECTOR>  The selector formula",
    "",
    "Options:",
    "  -v, --verbose  Log requests and response details",
    "  -h, --help     Print help"
  ]

/-- The help about finding. -/
def findHelp : List String :=
  [
    "Read rows from a table (APPSHEET_APP_ID and APPSHEET_ACCESS_KEY must be set)",
    "",
    "Usage: appsheet find [OPTIONS] <TABLE>",
    "",
    "Arguments:",
    "  <TABLE>  Table name",
    "",
    "Options:",
    "  -s, --selector <SELECTOR>  Selector formula",
    "  -v, --verbose              Log requests and response details",
    "  -q, --query <QUERY>        JSON query or condition expression",
    "  -p, --pretty               Pretty-print the output",
    "  -h, --help                 Print help"
  ]

/-- The help about help. -/
def helpHelp : List String :=
  [
    "Print this message or the help of the given subcommand(s)",
    "",
    "Usage: appsheet help [COMMAND]...",
    "",
    "Arguments:",
    "  [COMMAND]...  Print help for the subcommand(s)"
  ]

/-- The help about a topic. -/
def Topic.text : Topic → String
  | .program => textOfLines programHelp
  | .verb .render => textOfLines renderHelp
  | .verb .check => textOfLines checkHelp
  | .verb .find => textOfLines findHelp
  | .help => textOfLines helpHelp

/-- What is said about a command line that asks for nothing known. -/
def usageText : String :=
  textOfLines ["error: invalid arguments", "", "For more information, try '--help'."]

end Command

end TableClient
