import DebugExpr.Log.Event
import DebugExpr.Preferences

/-!
Setting up the log: preferences and the log itself are each given once, and stay as they are.
-/

namespace DebugExpr.Log

inductive SetupError where
  | preferencesTaken
  | alreadyStarted
  deriving DecidableEq, Repr, Inhabited

def SetupError.message : SetupError → String
  | preferencesTaken => "Runtime preferences already initialized"
  | alreadyStarted => "Global logger already initialized"

structure Setup where
  preferences : Option LoggingPreferences := none
  started : Bool := false
  deriving DecidableEq, Repr, Inhabited

def securityLevel : Level := .error

def startedEvent : Event :=
  Event.success .systemInitialized "Global logging system initialized"

namespace Setup

def prefer (setup : Setup) (preferences : LoggingPreferences) : Except SetupError Setup :=
  if setup.preferences.isSome then
    .error .preferencesTaken
  else
    .ok { setup with preferences := some preferences }

def start (setup : Setup) : Except SetupError Setup :=
  if setup.started then .error .alreadyStarted else .ok { setup with started := true }

def current (setup : Setup) : LoggingPreferences :=
  setup.preferences.getD {}

def minimum (setup : Setup) : Level :=
  if setup.current.minimum.rank < securityLevel.rank then securityLevel else setup.current.minimum

def flag (value : Bool) : String :=
  if value then "true" else "false"

def diagnostics (setup : Setup) : String :=
  "\n".intercalate [
    "=== Logging System Diagnostics ===",
    "Initialized: " ++ flag setup.started,
    "Registered codes: " ++ toString Code.registry.length,
    "",
    "Logging Configuration:",
    "- Max message length: " ++ toString maxContextLength,
    "- Security min level: " ++ toString securityLevel.rank,
    "- Min log level: " ++ setup.current.minimum.title,
    "- Structured logging: " ++ flag setup.current.structured,
    "- Console logging: " ++ flag setup.current.console]

end Setup

end DebugExpr.Log
