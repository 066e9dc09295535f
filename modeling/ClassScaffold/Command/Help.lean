import ClassScaffold.Command
/-!
What the program says about itself.
-/
namespace ClassScaffold.Command

def programName : String := "umlforge"

def programVersion : String := "0.1.0"

def versionLine : String := programName ++ " " ++ programVersion

def programHelp : List String :=
  ["Class-model to Spring Boot project generator",
    "",
    "Usage: umlforge <COMMAND>",
    "",
    "Commands:",
    "  generate  Generate a project archive from a request file",
    "  validate  Load a request and report derived names and parser anomalies",
    "  help      Print this message or the help of the given subcommand(s)",
    "",
    "Options:",
    "  -h, --help     Print help",
    "  -V, --version  Print version"]

def generateHelp : List String :=
  ["Generate a project archive from a request file",
    "",
    "Usage: umlforge generate [OPTIONS] --request <REQUEST>",
    "",
    "Options:",
    "  -r, --request <REQUEST>    Path to the request (.json, .yaml or .yml)",
    "  -o, --output <OUTPUT>      Output archive path (default: <projectName>.zip)",
    "  -d, --database <DATABASE>  Database type (postgresql, mysql) - overrides UMLFORGE_DATABASE",
    "  -t, --temp-dir <TEMP_DIR>  Directory for per-request workspaces - overrides UMLFORGE_TEMP_DIR",
    "  -h, --help                 Print help"]

def validateHelp : List String :=
  ["Load a request and report derived names and parser anomalies",
    "",
    "Usage: umlforge validate --request <REQUEST>",
    "",
    "Options:",
    "  -r, --request <REQUEST>  Path to the request (.json, .yaml or .yml)",
    "  -h, --help               Print help"]

def helpLines : Option Verb → List String
  | none => programHelp
  | some .generate => generateHelp
  | some .validate => validateHelp

end ClassScaffold.Command
