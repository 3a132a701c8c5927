import DebugExpr.Log.Code
import DebugExpr.Token

/-!
Why a text cannot be cut into tokens.
-/

namespace DebugExpr.Lexer

def maxExpressionLength : Nat := 4096

def maxTokenCount : Nat := 1024

inductive LexError where
  | noMatchingRule (position : Nat) (remaining : String)
  | tokenTooLong (position length bound : Nat)
  | expressionTooLong (length : Nat)
  | tooManyTokens (count : Nat)
  deriving DecidableEq, Repr, Inhabited

namespace LexError

def code : LexError → Log.Code
  | noMatchingRule .. => .noMatchingRule
  | tokenTooLong .. => .tokenTooLong
  | expressionTooLong .. => .expressionTooLong
  | tooManyTokens .. => .tooManyTokens

def span : LexError → Span
  | noMatchingRule position _ => ⟨position, position + 1⟩
  | tokenTooLong position length _ => ⟨position, position + length⟩
  | expressionTooLong _ => Span.point 0
  | tooManyTokens _ => Span.point 0

def message : LexError → String
  | noMatchingRule position remaining =>
      "No lexical rule matches at position " ++ toString position ++ ": '" ++ remaining ++ "'"
  | tokenTooLong position length bound =>
      "Token too long at position " ++ toString position ++ ": " ++ toString length ++
        " characters (max " ++ toString bound ++ ")"
  | expressionTooLong length =>
      "Expression too long: " ++ toString length ++ " bytes (max " ++
        toString maxExpressionLength ++ ")"
  | tooManyTokens count =>
      "Too many tokens: " ++ toString count ++ " (max " ++ toString maxTokenCount ++ ")"

end LexError

end DebugExpr.Lexer
