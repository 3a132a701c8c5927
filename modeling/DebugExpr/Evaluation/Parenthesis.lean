import DebugExpr.Token

/-!
Parentheses among tokens: balance, the first one without a partner, and expressions that are one
group.
-/

namespace DebugExpr

def closesFrom : Nat → List TokenKind → Bool
  | depth, [] => depth == 0
  | depth, .leftParen :: rest => closesFrom (depth + 1) rest
  | 0, .rightParen :: _ => false
  | depth + 1, .rightParen :: rest => closesFrom depth rest
  | depth, _ :: rest => closesFrom depth rest

def isBalanced (kinds : List TokenKind) : Bool :=
  closesFrom 0 kinds

def isWrapped (kinds : List TokenKind) : Bool :=
  decide (2 ≤ kinds.length) && kinds.head? == some .leftParen &&
    kinds.getLast? == some .rightParen && isBalanced kinds.tail.dropLast

/-- The place of a parenthesis without a partner, when those at `opened` are open, the innermost
first. A closing one is reported where it stands; of those left open, the innermost is. -/
def unmatchedFrom? : List Nat → TokenStream → Option Nat
  | opened, [] => opened.head?
  | opened, token :: rest =>
      match token.kind with
      | .leftParen => unmatchedFrom? (token.span.start :: opened) rest
      | .rightParen =>
          match opened with
          | [] => some token.span.start
          | _ :: outer => unmatchedFrom? outer rest
      | _ => unmatchedFrom? opened rest

def unmatched? (stream : TokenStream) : Option Nat :=
  unmatchedFrom? [] stream

end DebugExpr
