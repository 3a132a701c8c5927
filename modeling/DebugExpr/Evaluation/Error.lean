import DebugExpr.Machine.Guest
import DebugExpr.Token

/-!
Why an expression has no value. Structural errors lie in the layout of the tokens, the others in the
machine or in a literal.
-/

namespace DebugExpr

/-- The deepest level of nesting that is evaluated; the whole expression is at level one. -/
def maxEvaluationDepth : Nat := 256

inductive EvalError where
  | emptyOperand (span : Span)
  | invalidOperand (kind : TokenKind) (span : Span)
  | unresolvedRegister (name : String) (span : Span)
  | divisionByZero (span : Span)
  | unreadableAddress (address : Nat) (span : Span) (cause : MemoryError)
  | literalOutOfRange (text : String) (span : Span)
  | malformedExpression (span : Span)
  | unbalancedParentheses (position : Nat)
  | expressionTooDeep (depth : Nat)
  deriving DecidableEq, Repr, Inhabited

namespace EvalError

def code : EvalError → Log.Code
  | emptyOperand _ => .emptyOperand
  | invalidOperand .. => .invalidOperand
  | unresolvedRegister .. => .unresolvedRegister
  | divisionByZero _ => .divisionByZero
  | unreadableAddress .. => .unreadableAddress
  | literalOutOfRange .. => .literalOutOfRange
  | malformedExpression _ => .malformedExpression
  | unbalancedParentheses _ => .unbalancedParentheses
  | expressionTooDeep _ => .expressionTooDeep

def span : EvalError → Span
  | emptyOperand span => span
  | invalidOperand _ span => span
  | unresolvedRegister _ span => span
  | divisionByZero span => span
  | unreadableAddress _ span _ => span
  | literalOutOfRange _ span => span
  | malformedExpression span => span
  | unbalancedParentheses position => ⟨position, position + 1⟩
  | expressionTooDeep _ => Span.point 0

def isStructural : EvalError → Bool
  | emptyOperand _ | invalidOperand .. | malformedExpression _ | unbalancedParentheses _
      | expressionTooDeep _ => true
  | unresolvedRegister .. | divisionByZero _ | unreadableAddress .. | literalOutOfRange .. => false

def cause? : EvalError → Option MemoryError
  | unreadableAddress _ _ cause => some cause
  | _ => none

def message : EvalError → String
  | emptyOperand span => "Missing operand at " ++ span.text
  | invalidOperand kind span =>
      "'" ++ kind.name ++ "' cannot stand alone as an operand at " ++ span.text
  | unresolvedRegister name _ => "Unresolved register '" ++ name ++ "'"
  | divisionByZero span => "Division by zero at " ++ span.text
  | unreadableAddress address _ cause =>
      "Cannot read guest memory at " ++ Text.hexText address ++ ": " ++ cause.message
  | literalOutOfRange text _ => "Literal '" ++ text ++ "' does not fit in a machine word"
  | malformedExpression span => "No operator joins the operands at " ++ span.text
  | unbalancedParentheses position => "Unbalanced parenthesis at position " ++ toString position
  | expressionTooDeep depth =>
      "Expression nesting too deep: " ++ toString depth ++ " (max " ++
        toString maxEvaluationDepth ++ ")"

end EvalError

end DebugExpr
