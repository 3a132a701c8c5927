import DebugExpr.Disambiguation
import DebugExpr.Evaluation.Evaluator
import DebugExpr.Lexer.Scan

/-!
The engine takes an expression text through all stages: tokens, disambiguation, evaluation. A run
keeps the reads that it made and the events that it gave rise to, in order.
-/

namespace DebugExpr

inductive ExprError where
  | initialization (error : Lexer.RuleError)
  | lexical (error : Lexer.LexError)
  | evaluation (error : EvalError)
  deriving DecidableEq, Repr, Inhabited

namespace ExprError

def code : ExprError → Log.Code
  | initialization _ => .ruleCompilationFailure
  | lexical error => error.code
  | evaluation error => error.code

def isStructural : ExprError → Bool
  | initialization _ => false
  | lexical _ => true
  | evaluation error => error.isStructural

def span? : ExprError → Option Span
  | initialization _ => none
  | lexical error => some error.span
  | evaluation error => some error.span

def message : ExprError → String
  | initialization error =>
      "Rule table initialization failed: Lexical rule " ++ toString error.index ++ " ('" ++
        error.text ++ "') failed to compile"
  | lexical error => "Lexical analysis failed: " ++ error.message
  | evaluation error => "Evaluation failed: " ++ error.message

end ExprError

structure Engine where
  lexical : LexicalPreferences := {}
  evaluation : EvaluationPreferences := {}
  deriving DecidableEq, Repr, Inhabited

structure Evaluated (size : WordSize) where
  value : Word size
  tokens : TokenStream
  metrics : Lexer.LexicalMetrics
  summary : Disambiguation.Summary

structure Run (size : WordSize) where
  result : Except ExprError (Evaluated size)
  accesses : List Access := []
  events : List Log.Event

structure Listing where
  result : Except ExprError TokenStream
  events : List Log.Event

namespace Engine

/-- The mark that stands in events where the time that passed would: a run does not depend on a
clock. -/
def elapsedMark : String := "*"

def openingEvent (text : String) : Log.Event :=
  (Log.Event.debug "Evaluating expression").attach [("expression", text)]

def failureEvent (text : String) (error : EvalError) : Log.Event :=
  ((Log.Event.error error.code "Expression evaluation failed").withSpan error.span).attach [
    ("expression", text), ("error", error.message)]

def successEvent {size : WordSize} (text : String) (evaluated : Evaluated size) : Log.Event :=
  (Log.Event.success .expressionEvaluated "Expression evaluated").attach [
    ("expression", text),
    ("value", evaluated.value.text),
    ("tokens", toString evaluated.tokens.length),
    ("duration_us", elapsedMark)]

def list (engine : Engine) (text : String) : Listing :=
  let lexing := Lexer.tokenize Lexer.builtinTable engine.lexical text
  match lexing.result with
  | .error error => { result := .error (.lexical error), events := lexing.events }
  | .ok stream =>
      let (tokens, summary) := Disambiguation.pass stream
      { result := .ok tokens, events := lexing.events ++ [Disambiguation.completionEvent summary] }

def run {size : WordSize} (engine : Engine) (guest : Guest size) (text : String) : Run size :=
  let lexing := Lexer.tokenize Lexer.builtinTable engine.lexical text
  let opened := openingEvent text :: lexing.events
  match lexing.result with
  | .error error => { result := .error (.lexical error), events := opened }
  | .ok stream =>
      let (tokens, summary) := Disambiguation.pass stream
      let outcome := Evaluation.evaluate engine.evaluation.unresolved guest tokens
      let events :=
        opened ++ Disambiguation.completionEvent summary ::
          outcome.events engine.evaluation.logSteps
      match outcome.result with
      | .error error =>
          { result := .error (.evaluation error)
            accesses := outcome.accesses
            events := events ++ [failureEvent text error] }
      | .ok value =>
          let evaluated := { value, tokens, metrics := lexing.metrics, summary }
          { result := .ok evaluated
            accesses := outcome.accesses
            events := events ++ [successEvent text evaluated] }

def evaluate {size : WordSize} (engine : Engine) (guest : Guest size) (text : String) :
    Except ExprError (Word size) :=
  (engine.run guest text).result.map (·.value)

def evaluateWithFlag {size : WordSize} (engine : Engine) (guest : Guest size) (text : String) :
    Word size × Bool :=
  match engine.evaluate guest text with
  | .ok value => (value, true)
  | .error _ => (0, false)

def ofEnvironment (environment : Environment) : Engine where
  lexical := environment.lexical
  evaluation := environment.evaluation

end Engine

end DebugExpr
