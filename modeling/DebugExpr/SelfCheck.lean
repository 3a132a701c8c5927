import DebugExpr.Engine

/-!
The check that an engine makes of itself before work: the codes that it reports with are registered,
and its limits are put on record.
-/

namespace DebugExpr.SelfCheck

open Log (Code Event)

def sourceInfo (size : WordSize) : String :=
  "profile development (" ++ toString size.bits ++ "-bit guest)"

def lexicalCodes : List Code :=
  [.noMatchingRule, .tokenTooLong, .expressionTooLong, .tooManyTokens, .tokenTruncated]

def evaluationCodes : List Code :=
  [.emptyOperand, .invalidOperand, .unresolvedRegister, .divisionByZero, .literalOutOfRange,
    .malformedExpression, .unbalancedParentheses, .expressionTooDeep, .unreadableAddress]

def openingEvent : Event :=
  Event.debug "Validating expression pipeline configuration"

def limitsEvent : Event :=
  (Event.debug "Lexical limits initialized").attach [
    ("rules", toString Lexer.builtinTable.length),
    ("max_token_text_length", toString maxTokenText),
    ("max_expression_length", toString Lexer.maxExpressionLength),
    ("max_token_count", toString Lexer.maxTokenCount)]

def successEvent (size : WordSize) : Event :=
  (Event.success .systemInitialized "Expression pipeline validation succeeded").attach [
    ("stages_validated", "3"), ("word_bits", toString size.bits)]

def run (size : WordSize) : List Event × Bool :=
  if lexicalCodes.all (·.lookup?.isSome) then
    if evaluationCodes.all (·.lookup?.isSome) then
      ([openingEvent, limitsEvent, successEvent size], true)
    else
      ([openingEvent, limitsEvent], false)
  else
    ([openingEvent], false)

theorem code_mem_lexicalCodes (error : Lexer.LexError) : error.code ∈ lexicalCodes := by
  cases error <;> simp [Lexer.LexError.code, lexicalCodes]

theorem code_mem_evaluationCodes (error : EvalError) : error.code ∈ evaluationCodes := by
  cases error <;> simp [EvalError.code, evaluationCodes]

theorem run_passes_iff (size : WordSize) :
    (run size).2 = true ↔
      ∀ code ∈ lexicalCodes ++ evaluationCodes, code.lookup?.isSome = true := by
  rw [List.forall_mem_append, ← List.all_eq_true, ← List.all_eq_true]
  unfold run
  cases lexicalCodes.all (·.lookup?.isSome) <;>
    cases evaluationCodes.all (·.lookup?.isSome) <;> simp

/-- Once the check has passed, every error of an engine has a code that is registered. -/
theorem isSome_lookup?_code {size : WordSize} (passes : (run size).2 = true) (error : ExprError) :
    error.code.lookup?.isSome = true := by
  have registered := (run_passes_iff size).mp passes
  cases error with
  | initialization _ => rfl
  | lexical error => exact registered _ (List.mem_append_left _ (code_mem_lexicalCodes error))
  | evaluation error =>
      exact registered _ (List.mem_append_right _ (code_mem_evaluationCodes error))

example : (run .bits32).2 = true := by
  decide

end DebugExpr.SelfCheck
