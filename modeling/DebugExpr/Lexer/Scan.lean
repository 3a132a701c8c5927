import DebugExpr.Lexer.Error
import DebugExpr.Lexer.Rule
import DebugExpr.Preferences

/-!
The scan of an expression text. It cuts the text, from left to right, into the lexemes that the
rules of a table match, and halts at the first place where it cannot go on. Tokens, counts and log
events are all read off the lexemes.
-/

namespace DebugExpr.Lexer

structure Lexeme where
  rule : Nat
  pattern : String
  position : Nat
  characters : List Char
  kind : Option TokenKind
  deriving DecidableEq, Repr, Inhabited

namespace Lexeme

def size (lexeme : Lexeme) : Nat :=
  Text.byteLength lexeme.characters

def span (lexeme : Lexeme) : Span :=
  ⟨lexeme.position, lexeme.position + lexeme.size⟩

def isOverlong (bound : Nat) (lexeme : Lexeme) : Bool :=
  lexeme.kind.isSome && decide (bound < lexeme.characters.length)

def token? (bound : Nat) (lexeme : Lexeme) : Option Token :=
  lexeme.kind.map fun kind => ⟨kind, String.ofList (lexeme.characters.take bound), lexeme.span⟩

end Lexeme

structure Halt where
  error : LexError
  lexeme : Option Lexeme
  deriving DecidableEq, Repr, Inhabited

structure Scan where
  lexemes : List Lexeme := []
  halt : Option Halt := none
  deriving DecidableEq, Repr, Inhabited

def Lexeme.error? (preferences : LexicalPreferences) (count : Nat) (lexeme : Lexeme) :
    Option LexError :=
  if lexeme.kind.isNone then
    none
  else if maxTokenCount ≤ count then
    some (.tooManyTokens (count + 1))
  else if lexeme.isOverlong preferences.textBound && preferences.overlong == .reject then
    some (.tokenTooLong lexeme.position lexeme.characters.length preferences.textBound)
  else
    none

def RuleMatch.lexeme (found : RuleMatch) (position : Nat) (input : List Char) : Lexeme where
  rule := found.index
  pattern := found.rule.text
  position := position
  characters := input.take found.length
  kind := found.rule.action.kind?

def Scan.cons (lexeme : Lexeme) (scan : Scan) : Scan :=
  { scan with lexemes := lexeme :: scan.lexemes }

def scanFrom (table : RuleTable) (preferences : LexicalPreferences) (position count : Nat)
    (input : List Char) : Scan :=
  match input with
  | [] => {}
  | character :: rest =>
      match table.matchAt? (character :: rest) with
      | none =>
          { halt := some ⟨.noMatchingRule position (String.ofList (character :: rest)), none⟩ }
      | some found =>
          let lexeme := found.lexeme position (character :: rest)
          match lexeme.error? preferences count with
          | some error => { halt := some ⟨error, some lexeme⟩ }
          | none =>
              (scanFrom table preferences (position + lexeme.size)
                (if lexeme.kind.isSome then count + 1 else count)
                ((character :: rest).drop found.length)).cons lexeme
termination_by input.length
decreasing_by
  have positive := found.positive
  simp only [List.length_drop, List.length_cons]
  omega

structure LexicalMetrics where
  tokens : Nat := 0
  operands : Nat := 0
  operators : Nat := 0
  skippedBytes : Nat := 0
  truncated : Nat := 0
  deriving DecidableEq, Repr, Inhabited

namespace LexicalMetrics

def count (bound : Nat) (metrics : LexicalMetrics) (lexeme : Lexeme) : LexicalMetrics :=
  match lexeme.kind with
  | none => { metrics with skippedBytes := metrics.skippedBytes + lexeme.size }
  | some kind =>
      { metrics with
        tokens := metrics.tokens + 1
        operands := metrics.operands + (if kind.isOperand then 1 else 0)
        operators := metrics.operators + (if kind.isOperator then 1 else 0)
        truncated := metrics.truncated + (if lexeme.isOverlong bound then 1 else 0) }

def ofLexemes (bound : Nat) (lexemes : List Lexeme) : LexicalMetrics :=
  lexemes.foldl (count bound) {}

end LexicalMetrics

namespace Lexeme

def matchEvent (lexeme : Lexeme) : Log.Event :=
  (Log.Event.debug "Rule matched").attach [
    ("rule", toString lexeme.rule),
    ("pattern", lexeme.pattern),
    ("position", toString lexeme.position),
    ("length", toString lexeme.size),
    ("text", String.ofList lexeme.characters)]

def truncationEvent (bound : Nat) (lexeme : Lexeme) : Log.Event :=
  (Log.Event.warning .tokenTruncated "Token text truncated").attach [
    ("position", toString lexeme.position),
    ("length", toString lexeme.characters.length),
    ("kept", toString bound)]

def events (preferences : LexicalPreferences) (lexeme : Lexeme) : List Log.Event :=
  (if preferences.logRuleMatches then [lexeme.matchEvent] else []) ++
    (if lexeme.isOverlong preferences.textBound then [lexeme.truncationEvent preferences.textBound]
      else [])

end Lexeme

def LexError.event (error : LexError) (place : Span) : Log.Event :=
  match error with
  | noMatchingRule position remaining =>
      ((Log.Event.error error.code "No lexical rule matched").withSpan error.span).attach [
        ("position", toString position), ("remaining", remaining)]
  | tokenTooLong _ length bound =>
      ((Log.Event.error error.code "Token text exceeds bound").withSpan place).attach [
        ("length", toString length), ("max", toString bound)]
  | expressionTooLong length =>
      (Log.Event.error error.code "Expression exceeds maximum length").attach [
        ("length", toString length), ("limit", toString maxExpressionLength)]
  | tooManyTokens _ =>
      ((Log.Event.error error.code "Token limit exceeded").withSpan place).attach [
        ("limit", toString maxTokenCount)]

def Halt.events (preferences : LexicalPreferences) (halt : Halt) : List Log.Event :=
  match halt.lexeme with
  | some lexeme =>
      (if preferences.logRuleMatches then [lexeme.matchEvent] else []) ++
        [halt.error.event lexeme.span]
  | none => [halt.error.event halt.error.span]

structure Tokenization where
  result : Except LexError TokenStream
  metrics : LexicalMetrics := {}
  events : List Log.Event

def startEvent (table : RuleTable) (length : Nat) : Log.Event :=
  (Log.Event.debug "Starting lexical analysis").attach [
    ("length", toString length), ("rules", toString table.length)]

def completionEvent (metrics : LexicalMetrics) : Log.Event :=
  (Log.Event.success .tokenizationComplete "Tokenization completed").attach [
    ("tokens", toString metrics.tokens),
    ("operators", toString metrics.operators),
    ("operands", toString metrics.operands)]

def tokenize (table : RuleTable) (preferences : LexicalPreferences) (text : String) :
    Tokenization :=
  let input := text.toList
  let length := Text.byteLength input
  if maxExpressionLength < length then
    let error := LexError.expressionTooLong length
    { result := .error error, events := [error.event error.span] }
  else
    let scan := scanFrom table preferences 0 0 input
    let metrics := LexicalMetrics.ofLexemes preferences.textBound scan.lexemes
    let before := startEvent table length :: scan.lexemes.flatMap (Lexeme.events preferences)
    match scan.halt with
    | some halt =>
        { result := .error halt.error, metrics, events := before ++ halt.events preferences }
    | none =>
        { result := .ok (scan.lexemes.filterMap (Lexeme.token? preferences.textBound))
          metrics
          events := before ++ [completionEvent metrics] }

structure Analyzer where
  table : RuleTable := builtinTable
  preferences : LexicalPreferences := {}
  metrics : LexicalMetrics := {}

structure Analyzer.Call where
  text : String
  result : Except LexError TokenStream
  after : Analyzer

namespace Analyzer

def tokenize (analyzer : Analyzer) (text : String) : Except LexError TokenStream × Analyzer :=
  let lexing := Lexer.tokenize analyzer.table analyzer.preferences text
  (lexing.result, { analyzer with metrics := lexing.metrics })

def tokenizeAll (analyzer : Analyzer) : List String → List Call
  | [] => []
  | text :: rest =>
      let (result, after) := analyzer.tokenize text
      ⟨text, result, after⟩ :: after.tokenizeAll rest

end Analyzer

end DebugExpr.Lexer
