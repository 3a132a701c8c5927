import DebugExpr.Log.Event
import DebugExpr.Token

/-!
One pass from left to right tells dereferences from products and negations from differences. Each
decision looks at the kind of the token before, as the pass has left it.
-/

namespace DebugExpr.Disambiguation

def starIsDeref : Option TokenKind → Bool
  | some .number | some .hex | some .register | some .rightParen => false
  | _ => true

/-- A minus at the start, or after an opening parenthesis, a dereference or an arithmetic operator,
negates. -/
def minusIsNeg : Option TokenKind → Bool
  | none => true
  | some .leftParen | some .deref | some .plus | some .minus | some .star | some .slash => true
  | _ => false

def resolve (previous : Option TokenKind) : TokenKind → TokenKind
  | .star => if starIsDeref previous then .deref else .star
  | .minus => if minusIsNeg previous then .neg else .minus
  | kind => kind

structure Summary where
  dereferences : Nat := 0
  negations : Nat := 0
  deriving DecidableEq, Repr, Inhabited

def Summary.count (summary : Summary) (before after : TokenKind) : Summary :=
  { dereferences := summary.dereferences + (if before = .star ∧ after = .deref then 1 else 0)
    negations := summary.negations + (if before = .minus ∧ after = .neg then 1 else 0) }

def passFrom (previous : Option TokenKind) (summary : Summary) : TokenStream → TokenStream × Summary
  | [] => ([], summary)
  | token :: rest =>
      let kind := resolve previous token.kind
      let (resolved, total) := passFrom (some kind) (summary.count token.kind kind) rest
      ({ token with kind } :: resolved, total)

def pass (stream : TokenStream) : TokenStream × Summary :=
  passFrom none {} stream

def completionEvent (summary : Summary) : Log.Event :=
  (Log.Event.success .disambiguationComplete "Operator disambiguation completed").attach [
    ("dereferences", toString summary.dereferences),
    ("negations", toString summary.negations)]

end DebugExpr.Disambiguation
