/-!
# Help and version

`longHelp` describes every argument at length, `shortHelp` on one line each. Each is a list of
lines.
-/

set_option autoImplicit false
set_option relaxedAutoImplicit false

namespace DeclaredParams.CommandLine

/-- The line that answers a request for the version. -/
def versionLine : String := "argsof 0.2.0"

/-- The lines of the long help. -/
def longHelp : List String :=
  ["Print the declared parameters of a JavaScript function, arrow function or class",
   "",
   "Usage: argsof [OPTIONS] [PATH]",
   "",
   "Arguments:",
   "  [PATH]",
   "          File holding the callable's source, starting at the declaration (reads standard input when omitted or \"-\")",
   "",
   "Options:",
   "      --arrow",
   "          Recognise arrow functions",
   "",
   "      --class",
   "          Recognise class constructors",
   "",
   "      --regular",
   "          Recognise `function` declarations (with none of --arrow, --class, --regular every shape is recognised)",
   "",
   "      --json",
   "          Output in JSON format, including the matched shape",
   "",
   "      --color <WHEN>",
   "          Control color output: auto, always, never",
   "",
   "          Possible values:",
   "          - auto:   Auto-detect based on terminal and environment",
   "          - always: Always use colors",
   "          - never:  Never use colors",
   "          ",
   "          [default: auto]",
   "",
   "      --max-file-size <SIZE>",
   "          Maximum input size (default: 1MB). Use suffixes: K, M, G (e.g., 5M for 5MB)",
   "",
   "  -h, --help",
   "          Print help (see a summary with '-h')",
   "",
   "  -V, --version",
   "          Print version"]

/-- The lines of the short help. -/
def shortHelp : List String :=
  ["Print the declared parameters of a JavaScript function, arrow function or class",
   "",
   "Usage: argsof [OPTIONS] [PATH]",
   "",
   "Arguments:",
   "  [PATH]  File holding the callable's source, starting at the declaration (reads standard input when omitted or \"-\")",
   "",
   "Options:",
   "      --arrow                 Recognise arrow functions",
   "      --class                 Recognise class constructors",
   "      --regular               Recognise `function` declarations (with none of --arrow, --class, --regular every shape is recognised)",
   "      --json                  Output in JSON format, including the matched shape",
   "      --color <WHEN>          Control color output: auto, always, never [default: auto] [possible values: auto, always, never]",
   "      --max-file-size <SIZE>  Maximum input size (default: 1MB). Use suffixes: K, M, G (e.g., 5M for 5MB)",
   "  -h, --help                  Print help (see more with '--help')",
   "  -V, --version               Print version"]

end DeclaredParams.CommandLine
