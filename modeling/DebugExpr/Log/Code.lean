/-!
Event codes and what is registered about them: category, severity, whether the failure can be
recovered from, and a description.
-/

namespace DebugExpr.Log

structure Code where
  text : String
  deriving DecidableEq, Repr, Inhabited

inductive Severity where
  | critical
  | high
  | medium
  | low
  deriving DecidableEq, Repr, Inhabited

namespace Severity

def rank : Severity → Nat
  | critical => 0
  | high => 1
  | medium => 2
  | low => 3

def name : Severity → String
  | critical => "Critical"
  | high => "High"
  | medium => "Medium"
  | low => "Low"

end Severity

structure CodeEntry where
  code : Code
  category : String
  severity : Severity
  recoverable : Bool
  description : String
  deriving DecidableEq, Repr, Inhabited

namespace Code

def internalError : Code := ⟨"ERR001"⟩
def initializationFailure : Code := ⟨"ERR002"⟩
def ruleCompilationFailure : Code := ⟨"ERR003"⟩
def invalidConfiguration : Code := ⟨"E010"⟩
def noMatchingRule : Code := ⟨"E020"⟩
def tokenTooLong : Code := ⟨"E021"⟩
def expressionTooLong : Code := ⟨"E022"⟩
def tooManyTokens : Code := ⟨"E023"⟩
def tokenTruncated : Code := ⟨"W020"⟩
def emptyOperand : Code := ⟨"E060"⟩
def invalidOperand : Code := ⟨"E061"⟩
def unresolvedRegister : Code := ⟨"E062"⟩
def divisionByZero : Code := ⟨"E063"⟩
def literalOutOfRange : Code := ⟨"E064"⟩
def malformedExpression : Code := ⟨"E065"⟩
def unbalancedParentheses : Code := ⟨"E066"⟩
def expressionTooDeep : Code := ⟨"E067"⟩
def registerDefaulted : Code := ⟨"W062"⟩
def unreadableAddress : Code := ⟨"E080"⟩
def unsupportedWidth : Code := ⟨"E081"⟩
def invalidMachineImage : Code := ⟨"E082"⟩
def systemInitialized : Code := ⟨"I004"⟩
def ruleTableCompiled : Code := ⟨"I010"⟩
def tokenizationComplete : Code := ⟨"I020"⟩
def disambiguationComplete : Code := ⟨"I030"⟩
def expressionEvaluated : Code := ⟨"I060"⟩

/-- The codes of events that name no code of their own; they are not registered. -/
def plainWarning : Code := ⟨"W000"⟩
def plainInfo : Code := ⟨"I000"⟩
def plainDebug : Code := ⟨"D000"⟩

def registry : List CodeEntry := [
  ⟨internalError, "System", .critical, false, "Critical internal error"⟩,
  ⟨initializationFailure, "System", .critical, false, "Subsystem initialization failed"⟩,
  ⟨ruleCompilationFailure, "System", .critical, false, "A lexical rule pattern failed to compile"⟩,
  ⟨invalidConfiguration, "Configuration", .high, true, "Runtime configuration is invalid"⟩,
  ⟨noMatchingRule, "Lexical", .medium, true, "No lexical rule matches at the scan position"⟩,
  ⟨tokenTooLong, "Lexical", .medium, true, "Matched token text exceeds the configured bound"⟩,
  ⟨expressionTooLong, "Lexical", .medium, true, "Expression text exceeds the maximum length"⟩,
  ⟨tooManyTokens, "Lexical", .medium, true, "Expression produces too many tokens"⟩,
  ⟨tokenTruncated, "Lexical", .low, true, "Token text was truncated to the configured bound"⟩,
  ⟨emptyOperand, "Evaluation", .medium, true, "An operator is missing an operand"⟩,
  ⟨invalidOperand, "Evaluation", .medium, true, "Token cannot stand alone as an operand"⟩,
  ⟨unresolvedRegister, "Evaluation", .medium, true,
    "Register is not provided by the register file"⟩,
  ⟨divisionByZero, "Evaluation", .medium, true, "Division by zero"⟩,
  ⟨literalOutOfRange, "Evaluation", .medium, true, "Literal does not fit in a machine word"⟩,
  ⟨malformedExpression, "Evaluation", .medium, true,
    "Expression has no operator joining its operands"⟩,
  ⟨unbalancedParentheses, "Evaluation", .medium, true, "Parentheses are not balanced"⟩,
  ⟨expressionTooDeep, "Evaluation", .high, true,
    "Expression nesting exceeds the evaluation depth limit"⟩,
  ⟨registerDefaulted, "Evaluation", .low, true, "Unresolved register evaluated as zero"⟩,
  ⟨unreadableAddress, "Machine", .medium, true, "Guest memory at the address is not readable"⟩,
  ⟨unsupportedWidth, "Machine", .high, true, "Guest memory read width is not supported"⟩,
  ⟨invalidMachineImage, "Machine", .high, true, "Machine image is invalid"⟩,
  ⟨systemInitialized, "System", .low, true, "Logging system initialized"⟩,
  ⟨ruleTableCompiled, "Lexical", .low, true, "Lexical rule table compiled"⟩,
  ⟨tokenizationComplete, "Lexical", .low, true, "Tokenization completed"⟩,
  ⟨disambiguationComplete, "Disambiguation", .low, true, "Operator disambiguation completed"⟩,
  ⟨expressionEvaluated, "Evaluation", .low, true, "Expression evaluated"⟩]

def lookup? (code : Code) : Option CodeEntry :=
  registry.find? fun entry => entry.code == code

def severity (code : Code) : Severity :=
  code.lookup?.elim .medium (·.severity)

def isRecoverable (code : Code) : Bool :=
  code.lookup?.elim true (·.recoverable)

def category (code : Code) : String :=
  code.lookup?.elim "Unknown" (·.category)

def description (code : Code) : String :=
  code.lookup?.elim "Unknown error" (·.description)

end Code

end DebugExpr.Log
