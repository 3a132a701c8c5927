import DebugExpr.Evaluation.Outcome
import DebugExpr.Evaluation.Region
import DebugExpr.Preferences

/-!
The evaluator. A single token is an operand; a group in parentheses has the value of its inside;
anything else splits at its main operator. Both operands of a binary operator are evaluated, the
left one first, and only parentheses and unary operators count as nesting.
-/

namespace DebugExpr

namespace Evaluation

variable {size : WordSize}

def literal (radix : Nat) (digits : List Char) (token : Token) : Outcome (Word size) :=
  match Word.read? radix digits with
  | some value => .pure value
  | none => .fail (.literalOutOfRange token.text token.span)

def register (policy : UnresolvedPolicy) (guest : Guest size) (token : Token) :
    Outcome (Word size) := do
  .note (.access (.register token.text))
  match guest.readRegister token.text, policy with
  | some value, _ => .pure value
  | none, .error => .fail (.unresolvedRegister token.text token.span)
  | none, .zero =>
      .note (.defaulted token.text)
      .pure 0

def operand (policy : UnresolvedPolicy) (guest : Guest size) (token : Token) :
    Outcome (Word size) :=
  match token.kind with
  | .number => literal 10 token.text.toList token
  | .hex => literal 16 ((Text.hexDigits? token.text.toList).getD token.text.toList) token
  | .register => register policy guest token
  | kind => .fail (.invalidOperand kind token.span)

def dereference (guest : Guest size) (span : Span) (address : Word size) : Outcome (Word size) := do
  .note (.access (.memory address.toNat size.bytes))
  match guest.readMemory address size.bytes with
  | .ok value => .pure value
  | .error cause => .fail (.unreadableAddress address.toNat span cause)

def applyUnary (guest : Guest size) (span : Span) (kind : TokenKind) (value : Word size) :
    Outcome (Word size) :=
  if kind = .neg then .pure (-value) else dereference guest span value

def applyBinary (span : Span) (kind : TokenKind) (left right : Word size) : Outcome (Word size) :=
  match kind with
  | .plus => .pure (left + right)
  | .minus => .pure (left - right)
  | .star => .pure (left * right)
  | .slash => if right = 0 then .fail (.divisionByZero span) else .pure (left / right)
  | .equal => .pure (Word.ofBool (left == right))
  | .notEqual => .pure (Word.ofBool (left != right))
  | .and => .pure (Word.ofBool (left != 0 && right != 0))
  | .or => .pure (Word.ofBool (left != 0 || right != 0))
  | other => .fail (.invalidOperand other span)

def evaluateRegion (policy : UnresolvedPolicy) (guest : Guest size) (depth : Nat)
    (region : Region) :
    Outcome (Word size) :=
  if maxEvaluationDepth < depth then
    .fail (.expressionTooDeep depth)
  else
    match _shape : region.tokens with
    | [] => .fail (.emptyOperand region.gap)
    | [token] => operand policy guest token
    | _ :: _ :: _ =>
        if isWrapped region.kinds then
          evaluateRegion policy guest (depth + 1) region.inner
        else
          match found : region.mainOperator? with
          | none => .fail (.malformedExpression region.span)
          | some chosen => do
              .note (.split region.offset (region.offset + region.tokens.length)
                (region.offset + chosen.index) chosen.kind depth)
              if chosen.kind.isUnary then
                if chosen.index = 0 then
                  let value ← evaluateRegion policy guest (depth + 1) (region.after chosen.index)
                  applyUnary guest region.span chosen.kind value
                else
                  .fail (.malformedExpression region.span)
              else
                let left ← evaluateRegion policy guest depth (region.before chosen.index)
                let right ← evaluateRegion policy guest depth (region.after chosen.index)
                applyBinary ((region.tokens[chosen.index]?.map (·.span)).getD (Span.point 0))
                  chosen.kind left right
termination_by region.tokens.length
decreasing_by
  · simp only [Region.inner, _shape, List.tail_cons, List.length_dropLast, List.length_cons]
    omega
  all_goals
    have bound := Region.mainOperator?_index_lt found
    simp only [Region.after, Region.before, List.length_drop, List.length_take]
    omega

def evaluateRange (policy : UnresolvedPolicy) (guest : Guest size) (stream : TokenStream)
    (first last : Nat) :
    Outcome (Word size) :=
  evaluateRegion policy guest 1 (stream.region first (if first ≤ last then last + 1 else first))

def evaluate (policy : UnresolvedPolicy) (guest : Guest size) (stream : TokenStream) :
    Outcome (Word size) :=
  match unmatched? stream with
  | some position => .fail (.unbalancedParentheses position)
  | none => evaluateRegion policy guest 1 (stream.region 0 stream.length)

end Evaluation

end DebugExpr
