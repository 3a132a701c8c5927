import DebugExpr.Log.Event
import DebugExpr.Text.Numeral

/-!
Preferences of the lexer, the evaluator and the log, and the environment variables that set their
defaults.
-/

namespace DebugExpr

inductive OverlongPolicy where
  | reject
  | truncate
  deriving DecidableEq, Repr, Inhabited

namespace OverlongPolicy

def name : OverlongPolicy → String
  | reject => "reject"
  | truncate => "truncate"

def ofName? (text : String) : Option OverlongPolicy :=
  [reject, truncate].find? fun policy => policy.name == text

end OverlongPolicy

inductive UnresolvedPolicy where
  | error
  | zero
  deriving DecidableEq, Repr, Inhabited

namespace UnresolvedPolicy

def name : UnresolvedPolicy → String
  | error => "error"
  | zero => "zero"

def ofName? (text : String) : Option UnresolvedPolicy :=
  [error, zero].find? fun policy => policy.name == text

end UnresolvedPolicy

namespace Log.Level

def configName : Level → String
  | error => "error"
  | warning => "warning"
  | info => "info"
  | debug => "debug"

def ofConfigName? (text : String) : Option Level :=
  [error, warning, info, debug].find? fun level => level.configName == text

def ofSetting? (text : String) : Option Level :=
  if text == "warn" then
    some warning
  else
    match ofConfigName? text with
    | some level => some level
    | none => [error, warning, info, debug].find? fun level => toString level.rank == text

end Log.Level

def maxTokenText : Nat := 31

structure LexicalPreferences where
  tokenTextLimit : Nat := maxTokenText
  overlong : OverlongPolicy := .reject
  logRuleMatches : Bool := true
  deriving DecidableEq, Repr, Inhabited

def LexicalPreferences.textBound (preferences : LexicalPreferences) : Nat :=
  max 1 (min preferences.tokenTextLimit maxTokenText)

structure EvaluationPreferences where
  unresolved : UnresolvedPolicy := .error
  logSteps : Bool := false
  deriving DecidableEq, Repr, Inhabited

structure LoggingPreferences where
  structured : Bool := false
  console : Bool := false
  minimum : Log.Level := .info
  deriving DecidableEq, Repr, Inhabited

abbrev Environment := String → Option String

namespace Environment

def empty : Environment := fun _ => none

def setting {α : Type} (environment : Environment) (name : String) (read? : String → Option α)
    (fallback : α) : α :=
  ((environment name).bind read?).getD fallback

def readCount? (text : String) : Option Nat :=
  Text.readNumeral? 10 (Nat.pow 2 64) text.toList

def readFlag? (text : String) : Option Bool :=
  if text == "true" then some true else if text == "false" then some false else none

def lexical (environment : Environment) : LexicalPreferences where
  tokenTextLimit := environment.setting "SDB_LEXICAL_MAX_TOKEN_TEXT_LENGTH" readCount? maxTokenText
  overlong := environment.setting "SDB_LEXICAL_OVERLONG_TOKEN_POLICY"
    (OverlongPolicy.ofName? ·.toLower) .reject
  logRuleMatches := environment.setting "SDB_LEXICAL_LOG_RULE_MATCHES" readFlag? true

def evaluation (environment : Environment) : EvaluationPreferences where
  unresolved := environment.setting "SDB_EVAL_UNRESOLVED_REGISTER_POLICY"
    (UnresolvedPolicy.ofName? ·.toLower) .error
  logSteps := environment.setting "SDB_EVAL_LOG_STEPS" readFlag? false

def logging (environment : Environment) : LoggingPreferences where
  structured := environment.setting "SDB_LOGGING_USE_STRUCTURED" readFlag? false
  console := environment.setting "SDB_LOGGING_ENABLE_CONSOLE" readFlag? false
  minimum := environment.setting "SDB_LOGGING_MIN_LEVEL" (Log.Level.ofSetting? ·.toLower) .info

end Environment

end DebugExpr
