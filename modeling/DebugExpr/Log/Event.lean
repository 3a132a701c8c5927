import DebugExpr.Log.Code
import DebugExpr.Span
import DebugExpr.Text.Numeral
import DebugExpr.Text.Truncation
import Std.Data.TreeMap

/-!
Log events and their two written forms, a plain line and a JSON object. The context of an event is
kept in the order of its keys.
-/

namespace DebugExpr.Log

inductive Level where
  | error
  | warning
  | info
  | debug
  deriving DecidableEq, Repr, Inhabited

namespace Level

def rank : Level → Nat
  | error => 0
  | warning => 1
  | info => 2
  | debug => 3

def name : Level → String
  | error => "ERROR"
  | warning => "WARN"
  | info => "INFO"
  | debug => "DEBUG"

def title : Level → String
  | error => "Error"
  | warning => "Warning"
  | info => "Info"
  | debug => "Debug"

def passes (level minimum : Level) : Bool :=
  decide (level.rank ≤ minimum.rank)

end Level

abbrev Context := Std.TreeMap String String

structure Event where
  level : Level
  code : Code
  message : String
  span : Option Span := none
  context : Context := {}
  deriving Inhabited

def maxContextLength : Nat := 1024

namespace Event

def error (code : Code) (message : String) : Event :=
  { level := .error, code, message }

def warning (code : Code) (message : String) : Event :=
  { level := .warning, code, message }

def success (code : Code) (message : String) : Event :=
  { level := .info, code, message }

def info (message : String) : Event :=
  { level := .info, code := .plainInfo, message }

def debug (message : String) : Event :=
  { level := .debug, code := .plainDebug, message }

def withSpan (event : Event) (span : Span) : Event :=
  { event with span := some span }

def withContext (event : Event) (key value : String) : Event :=
  { event with context := event.context.insert key value }

def attach (event : Event) (values : List (String × String)) : Event :=
  values.foldl
    (fun attached (key, value) =>
      attached.withContext key (Text.truncate maxContextLength value)) event

def isError (event : Event) : Bool :=
  event.level == .error

def text (event : Event) : String :=
  let place := match event.span with
    | some span => " at " ++ span.text
    | none => ""
  let pairs := event.context.toList.map fun (key, value) => key ++ "=" ++ value
  let details := if pairs.isEmpty then "" else " (" ++ ", ".intercalate pairs ++ ")"
  "[" ++ event.level.name ++ "] " ++ event.code.text ++ " - " ++ event.message ++ place ++ details

end Event

namespace Json

def escape (character : Char) : List Char :=
  if character == '"' then ['\\', '"']
  else if character == '\\' then ['\\', '\\']
  else if character == '\x08' then ['\\', 'b']
  else if character == '\t' then ['\\', 't']
  else if character == '\n' then ['\\', 'n']
  else if character == '\x0c' then ['\\', 'f']
  else if character == '\r' then ['\\', 'r']
  else if character.toNat < 0x20 then
    let digits := Nat.toDigits 16 character.toNat
    ['\\', 'u'] ++ List.replicate (4 - digits.length) '0' ++ digits
  else [character]

def quote (value : String) : String :=
  "\"" ++ String.ofList (value.toList.flatMap escape) ++ "\""

def object (fields : List (String × String)) : String :=
  "\x7b" ++ ",".intercalate (fields.map fun (key, value) => quote key ++ ":" ++ value) ++ "\x7d"

end Json

namespace Event

def json (event : Event) (timestamp : String) : String :=
  let always (key value : String) := [(key, Json.quote value)]
  let context :=
    if event.context.isEmpty then []
    else [("context", Json.object (event.context.toList.map fun (key, value) =>
      (key, Json.quote value)))]
  let metadata :=
    if event.isError then
      [("error_metadata", Json.object [
        ("description", Json.quote event.code.description),
        ("recoverable", if event.code.isRecoverable then "true" else "false")])]
    else []
  let span := match event.span with
    | some span =>
        [("span", Json.object [("end", toString span.stop), ("start", toString span.start)])]
    | none => []
  Json.object
    (always "category" event.code.category ++ always "code" event.code.text ++ context ++
      metadata ++ always "level" event.level.name ++ always "message" event.message ++
      always "severity" event.code.severity.name ++ span ++ always "timestamp" timestamp)

end Event

end DebugExpr.Log
