import DebugExpr.Batch
import DebugExpr.Configuration
import DebugExpr.Console.FileTree
import DebugExpr.Console.Help
import DebugExpr.Log.Setup
import DebugExpr.Machine.ImageToml
import DebugExpr.SelfCheck
import DebugExpr.Text.Quoted

/-!
A run of the console as a function of its arguments, its environment and the files that it can read:
what it writes to either stream, and its exit status. The status is 2 for a malformed expression and
1 for any other failure.
-/

namespace DebugExpr.Console

structure Transcript where
  stdout : String := ""
  stderr : String := ""
  deriving DecidableEq, Repr, Inhabited

structure Result where
  status : Nat
  transcript : Transcript
  deriving DecidableEq, Repr, Inhabited

namespace Transcript

def print (transcript : Transcript) (text : String) : Transcript :=
  { transcript with stdout := transcript.stdout ++ text }

def complain (transcript : Transcript) (text : String) : Transcript :=
  { transcript with stderr := transcript.stderr ++ text }

def log (preferences : LoggingPreferences) (transcript : Transcript) (event : Log.Event) :
    Transcript :=
  if preferences.console && event.level.passes preferences.minimum then
    let line := if preferences.structured then event.json Engine.elapsedMark else event.text
    if event.isError then transcript.complain (line ++ "\n") else transcript.print (line ++ "\n")
  else
    transcript

def logAll (preferences : LoggingPreferences) (transcript : Transcript) (events : List Log.Event) :
    Transcript :=
  events.foldl (log preferences) transcript

end Transcript

inductive StartError where
  | file (error : FileError)
  | namedFile (path : String) (error : FileError)
  | parse
  | preference (name reason : String)
  | register (error : RegisterError)
  | memory (base : Nat) (error : MemoryError)
  deriving DecidableEq, Repr, Inhabited

namespace StartError

def fieldsText (name : String) (fields : List (String × String)) : String :=
  name ++ " \x7b " ++ ", ".intercalate (fields.map fun (key, value) => key ++ ": " ++ value) ++
    " \x7d"

def systemText (number : Nat) (kind message : String) : String :=
  fieldsText "Os" [("code", toString number), ("kind", kind), ("message", Text.quoted message)]

def fileText : FileError → String
  | .notFound => systemText 2 "NotFound" "No such file or directory"
  | .notPermitted => systemText 13 "PermissionDenied" "Permission denied"
  | .notDirectory => systemText 20 "NotADirectory" "Not a directory"
  | .isDirectory => systemText 21 "IsADirectory" "Is a directory"
  | .nameTooLong => systemText 36 "InvalidFilename" "File name too long"
  | .notText =>
      fieldsText "Error" [("kind", "InvalidData"),
        ("message", Text.quoted "stream did not contain valid UTF-8")]

def memoryText : MemoryError → String
  | .outOfBounds address width =>
      fieldsText "OutOfBounds" [("addr", toString address), ("width", toString width)]
  | .unsupportedWidth width => fieldsText "UnsupportedWidth" [("width", toString width)]

def registerText : RegisterError → String
  | .unknown name => fieldsText "Unknown" [("name", Text.quoted name)]
  | .unavailable name => fieldsText "Unavailable" [("name", Text.quoted name)]

def text : StartError → String
  | file error => fileText error ++ "\n"
  | namedFile path error =>
      fieldsText "Io" [("path", Text.quoted path), ("source", fileText error)] ++ "\n"
  | parse => "Parse"
  | preference name reason =>
      fieldsText "InvalidPreference" [("name", Text.quoted name), ("reason", Text.quoted reason)] ++
        "\n"
  | register error => "Register(" ++ registerText error ++ ")\n"
  | memory base error =>
      fieldsText "Memory" [("base", toString base), ("source", memoryText error)] ++ "\n"

def ofConfig : ConfigError → StartError
  | .parse => parse
  | .invalidPreference name reason => preference name reason

def ofImage : ImageError → StartError
  | .register error => register error
  | .memory base error => memory base error

end StartError

def Transcript.abort (transcript : Transcript) (error : StartError) : Result :=
  ⟨1, transcript.complain ("Error: " ++ error.text)⟩

def loadConfiguration (files : FileSystem) (environment : Environment) :
    Option String → Except StartError Configuration
  | none => .ok (Configuration.ofEnvironment environment)
  | some path =>
      match files path with
      | .error error => .error (.namedFile path error)
      | .ok text => (Configuration.ofToml environment text).mapError StartError.ofConfig

def loadImage (size : WordSize) (files : FileSystem) :
    Option String → Except StartError (MachineImage size)
  | none => .ok {}
  | some path =>
      match files path with
      | .error error => .error (.namedFile path error)
      | .ok text =>
          match MachineImage.ofToml? text with
          | some image => .ok image
          | none => .error .parse

def loadMachine (size : WordSize) (files : FileSystem) (path : Option String) :
    Except StartError (Machine size) := do
  let image ← loadImage size files path
  image.build.mapError StartError.ofImage

def startingEvent (size : WordSize) : Log.Event :=
  (Log.Event.info "SDB console starting").attach [("build", SelfCheck.sourceInfo size)]

def rulesEvent : Log.Event :=
  (Log.Event.success .ruleTableCompiled "Lexical rule table compiled").attach [
    ("rules", toString Lexer.builtinTable.length)]

def batchEvent {size : WordSize} (file : String) (report : BatchReport size) : Log.Event :=
  (Log.Event.info "Batch check finished").attach [
    ("file", file), ("passed", toString report.passed), ("failed", toString report.failed)]

def failureStatus (error : ExprError) : Nat :=
  if error.isStructural then 2 else 1

def failureText (expression : String) (error : ExprError) : String :=
  let message := "[" ++ error.code.text ++ "] " ++ error.message
  match error.span? with
  | some span => span.pointer expression message
  | none => "Error: " ++ message ++ "\n"

def valueText {size : WordSize} (expression : String) (value : Word size) : String :=
  expression ++ " = " ++ value.text ++ " (" ++ value.paddedHex ++ ")\n"

def tokenLine (index : Nat) (token : Token) : String :=
  Text.padLeft 3 (toString index) ++ "  " ++ Text.padRight 10 token.kind.name ++ " " ++
    Text.padRight 12 token.text ++ " " ++ token.span.text ++ "\n"

def tokensText (tokens : TokenStream) : String :=
  tokens.listing ++ "\n" ++
    String.join (tokens.zipIdx.map fun (token, index) => tokenLine index token)

def reportText {size : WordSize} (report : BatchReport size) : String :=
  String.join (report.failures.map fun failure => "FAIL " ++ failure.text ++ "\n") ++
    toString report.total ++ " cases: " ++ toString report.passed ++ " passed, " ++
    toString report.failed ++ " failed (" ++ report.percentage ++ "%)\n"

section Commands

variable {size : WordSize}

def runEval (preferences : LoggingPreferences) (engine : Engine) (guest : Guest size)
    (expression : String) (transcript : Transcript) : Result :=
  let run := engine.run guest expression
  let logged := transcript.logAll preferences run.events
  match run.result with
  | .ok evaluated => ⟨0, logged.print (valueText expression evaluated.value)⟩
  | .error error => ⟨failureStatus error, logged.complain (failureText expression error)⟩

def runTokens (preferences : LoggingPreferences) (engine : Engine) (expression : String)
    (transcript : Transcript) : Result :=
  let listing := engine.list expression
  let logged := transcript.logAll preferences listing.events
  match listing.result with
  | .ok tokens => ⟨0, logged.print (tokensText tokens)⟩
  | .error error => ⟨failureStatus error, logged.complain (failureText expression error)⟩

def runCheck (preferences : LoggingPreferences) (engine : Engine) (guest : Guest size)
    (files : FileSystem) (file : String) (transcript : Transcript) : Result :=
  match files file with
  | .error error => transcript.abort (.file error)
  | .ok text =>
      let run := Batch.run engine guest text
      let logged := transcript.logAll preferences run.events
      let finished := (logged.print (reportText run.report)).log preferences
        (batchEvent file run.report)
      ⟨if run.report.allPassed then 0 else 1, finished⟩

end Commands

def runInvocation (size : WordSize) (environment : Environment) (files : FileSystem)
    (invocation : Invocation) : Result :=
  match loadConfiguration files environment invocation.options.config with
  | .error error => Transcript.abort {} error
  | .ok configuration =>
      let preferences := configuration.logging
      let started := Transcript.logAll preferences {} [Log.startedEvent, startingEvent size]
      match loadMachine size files invocation.options.image with
      | .error error => started.abort error
      | .ok machine =>
          let ready := started.log preferences rulesEvent
          match invocation.command with
          | .eval expression =>
              runEval preferences configuration.engine machine.guest expression ready
          | .check file => runCheck preferences configuration.engine machine.guest files file ready
          | .tokens expression => runTokens preferences configuration.engine expression ready

/-- The line that arguments are answered with that fit no command. -/
def usageText : String := "<usage>"

def run (size : WordSize) (environment : Environment) (files : FileSystem)
    (arguments : List String) : Result :=
  match readArguments arguments with
  | .invoke invocation => runInvocation size environment files invocation
  | .help topic => ⟨0, { stdout := topic.helpText }⟩
  | .version => ⟨0, { stdout := versionText }⟩
  | .misuse => ⟨2, { stderr := usageText }⟩

def Request.files : Request → List String
  | .invoke invocation =>
      invocation.options.config.toList ++ invocation.options.image.toList ++
        (match invocation.command with
          | .check file => [file]
          | _ => [])
  | _ => []

end DebugExpr.Console
