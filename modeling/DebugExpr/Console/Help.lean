import DebugExpr.Console.Arguments

/-!
The help texts of the console.
-/

namespace DebugExpr.Console

def versionText : String := "sdb 0.1.0\n"

def fileOptionLines : List String := [
  "  -i, --image <FILE>   TOML machine image with registers and memory segments",
  "  -c, --config <FILE>  TOML runtime configuration",
  "  -h, --help           Print help"]

def commandHelp (about usage argument : String) : List String :=
  [about, "", "Usage: " ++ usage, "", "Arguments:", argument, "", "Options:"] ++ fileOptionLines

def Topic.helpLines : Topic → List String
  | console => [
      "Simple debugger expression console",
      "",
      "Usage: sdb [OPTIONS] <COMMAND>",
      "",
      "Commands:",
      "  eval    Evaluate one expression",
      "  check   Check a file of `<expected> <expression>` lines",
      "  tokens  Print the disambiguated token stream",
      "  help    Print this message or the help of the given subcommand(s)",
      "",
      "Options:"] ++ fileOptionLines ++ ["  -V, --version        Print version"]
  | eval =>
      commandHelp "Evaluate one expression" "sdb eval [OPTIONS] <EXPRESSION>..."
        "  <EXPRESSION>...  Expression text; separate arguments are joined with spaces"
  | check =>
      commandHelp "Check a file of `<expected> <expression>` lines" "sdb check [OPTIONS] <FILE>"
        "  <FILE>  "
  | tokens =>
      commandHelp "Print the disambiguated token stream" "sdb tokens [OPTIONS] <EXPRESSION>..."
        "  <EXPRESSION>...  "
  | help => [
      "Print this message or the help of the given subcommand(s)",
      "",
      "Usage: sdb help [COMMAND]",
      "",
      "Commands:",
      "  eval    Evaluate one expression",
      "  check   Check a file of `<expected> <expression>` lines",
      "  tokens  Print the disambiguated token stream",
      "  help    Print this message or the help of the given subcommand(s)"]

def Topic.helpText (topic : Topic) : String :=
  "\n".intercalate topic.helpLines ++ "\n"

end DebugExpr.Console
