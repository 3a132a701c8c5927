import DebugExpr.Evaluation.MainOperator
import DebugExpr.Evaluation.Parenthesis

/-!
Runs of adjacent tokens, as the evaluator takes an expression apart: the group inside of
parentheses, and the operands on either side of an operator.
-/

namespace DebugExpr

structure Region where
  offset : Nat
  tokens : List Token
  gap : Span
  deriving DecidableEq, Repr

namespace Region

def kinds (region : Region) : List TokenKind :=
  region.tokens.map (·.kind)

def span (region : Region) : Span :=
  match region.tokens.head?, region.tokens.getLast? with
  | some first, some last => first.span.merge last.span
  | _, _ => region.gap

def gapAt (region : Region) (index : Nat) : Span :=
  match region.tokens[index]? with
  | some token => Span.point token.span.start
  | none => region.gap

def inner (region : Region) : Region :=
  ⟨region.offset + 1, region.tokens.tail.dropLast, region.gapAt (region.tokens.length - 1)⟩

def before (region : Region) (index : Nat) : Region :=
  ⟨region.offset, region.tokens.take index, region.gapAt index⟩

def after (region : Region) (index : Nat) : Region :=
  ⟨region.offset + index + 1, region.tokens.drop (index + 1), region.gap⟩

def mainOperator? (region : Region) : Option Candidate :=
  DebugExpr.mainOperator? region.kinds

theorem mainOperator?_index_lt {region : Region} {chosen : Candidate}
    (found : region.mainOperator? = some chosen) :
    chosen.index < region.tokens.length := by
  simpa [kinds] using DebugExpr.mainOperator?_index_lt found

end Region

namespace TokenStream

def region (stream : TokenStream) (start stop : Nat) : Region :=
  ⟨start, (stream.drop start).take (stop - start), stream.gapSpan (max start stop)⟩

def isWrapped (stream : TokenStream) (start stop : Nat) : Bool :=
  decide (stop ≤ stream.length) && DebugExpr.isWrapped (stream.region start stop).kinds

def mainOperator? (stream : TokenStream) (start stop : Nat) : Option (Nat × TokenKind) :=
  if stop ≤ stream.length ∨ stop ≤ start then
    (stream.region start stop).mainOperator?.map fun chosen => (start + chosen.index, chosen.kind)
  else
    none

end TokenStream

end DebugExpr
