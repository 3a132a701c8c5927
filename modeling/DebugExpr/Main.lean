import DebugExpr.Console.Run

/-!
The command line program. It reads the environment and the files that its arguments name, and writes
what the run says.
-/

namespace DebugExpr.Console

def variableNames : List String := [
  "SDB_LEXICAL_MAX_TOKEN_TEXT_LENGTH", "SDB_LEXICAL_OVERLONG_TOKEN_POLICY",
  "SDB_LEXICAL_LOG_RULE_MATCHES", "SDB_EVAL_UNRESOLVED_REGISTER_POLICY", "SDB_EVAL_LOG_STEPS",
  "SDB_LOGGING_USE_STRUCTURED", "SDB_LOGGING_ENABLE_CONSOLE", "SDB_LOGGING_MIN_LEVEL"]

def readFile (name : String) : IO (Except FileError String) := do
  try
    let bytes ← IO.FS.readBinFile name
    return match String.fromUTF8? bytes with
      | some text => .ok text
      | none => .error .notText
  catch failure =>
    return match failure with
      | .permissionDenied .. => .error .notPermitted
      | .inappropriateType none .. => .error .isDirectory
      | .inappropriateType (some _) .. => .error .notDirectory
      | .invalidArgument .. => .error .nameTooLong
      | _ => .error .notFound

end DebugExpr.Console

open DebugExpr DebugExpr.Console in
def main (arguments : List String) : IO UInt32 := do
  let settings ← variableNames.filterMapM fun name => do
    return (← IO.getEnv name).map fun value => (name, value)
  let contents ← (readArguments arguments).files.mapM fun name => do
    return (name, ← readFile name)
  let result := run .bits32 (settings.lookup ·)
    (fun name => (contents.lookup name).getD (.error .notFound)) arguments
  IO.print result.transcript.stdout
  IO.eprint result.transcript.stderr
  return result.status.toUInt32
