import DebugExpr.Engine
import DebugExpr.Toml.Decode

/-!
The configuration of a session: preferences from a TOML text, with the environment behind them for
what it leaves out.
-/

namespace DebugExpr

structure Configuration where
  lexical : LexicalPreferences := {}
  evaluation : EvaluationPreferences := {}
  logging : LoggingPreferences := {}
  deriving DecidableEq, Repr, Inhabited

inductive ConfigError where
  | parse
  | invalidPreference (name reason : String)
  deriving DecidableEq, Repr, Inhabited

namespace ConfigError

def code (_ : ConfigError) : Log.Code :=
  .invalidConfiguration

def message : ConfigError → String
  | parse => "Invalid TOML configuration"
  | invalidPreference name reason => "Invalid preference '" ++ name ++ "': " ++ reason

end ConfigError

namespace Configuration

open Toml (Record Value Fields)

def ofEnvironment (environment : Environment) : Configuration where
  lexical := environment.lexical
  evaluation := environment.evaluation
  logging := environment.logging

def validate (configuration : Configuration) : Except ConfigError Unit :=
  let limit := configuration.lexical.tokenTextLimit
  if limit = 0 ∨ maxTokenText < limit then
    .error (.invalidPreference "lexical.max_token_text_length"
      (toString limit ++ " is outside 1..=" ++ toString maxTokenText))
  else
    .ok ()

def lexicalOf? (fallback : LexicalPreferences) (value : Value) : Option LexicalPreferences := do
  let record ← Record.ofValue? value
  let tokenTextLimit ← record.optional? 0 "max_token_text_length" fallback.tokenTextLimit
      (Value.natural? (Nat.pow 2 64))
  let overlong ← record.optional? 1 "overlong_token_policy" fallback.overlong
      (Value.choice? OverlongPolicy.ofName?)
  let logRuleMatches ← record.optional? 2 "log_rule_matches" fallback.logRuleMatches Value.boolean?
  return { tokenTextLimit, overlong, logRuleMatches }

def evaluationOf? (fallback : EvaluationPreferences) (value : Value) :
    Option EvaluationPreferences := do
  let record ← Record.ofValue? value
  let unresolved ←
    record.optional? 0 "unresolved_register_policy" fallback.unresolved
      (Value.choice? UnresolvedPolicy.ofName?)
  let logSteps ← record.optional? 1 "log_evaluation_steps" fallback.logSteps Value.boolean?
  return { unresolved, logSteps }

def loggingOf? (fallback : LoggingPreferences) (value : Value) : Option LoggingPreferences := do
  let record ← Record.ofValue? value
  let structured ← record.optional? 0 "use_structured_logging" fallback.structured Value.boolean?
  let console ← record.optional? 1 "enable_console_logging" fallback.console Value.boolean?
  let minimum ← record.optional? 2 "min_log_level" fallback.minimum
      (Value.choice? Log.Level.ofConfigName?)
  return { structured, console, minimum }

def ofFields? (fallback : Configuration) (fields : Fields) : Option Configuration := do
  let record := Record.named fields
  let lexical ← record.optional? 0 "lexical" fallback.lexical (lexicalOf? fallback.lexical)
  let evaluation ← record.optional? 1 "evaluation" fallback.evaluation
      (evaluationOf? fallback.evaluation)
  let logging ← record.optional? 2 "logging" fallback.logging (loggingOf? fallback.logging)
  return { lexical, evaluation, logging }

def ofToml (environment : Environment) (text : String) : Except ConfigError Configuration := do
  match (Toml.readDocument? text).bind (ofFields? (ofEnvironment environment)) with
  | some configuration =>
      configuration.validate
      return configuration
  | none => throw .parse

def engine (configuration : Configuration) : Engine where
  lexical := configuration.lexical
  evaluation := configuration.evaluation

end Configuration

end DebugExpr
