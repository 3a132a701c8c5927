import DebugExpr.Span

/-!
Tokens of the expression language: their kinds, the rank at which an operator splits an expression,
and the one-line listing of a token sequence.
-/

namespace DebugExpr

inductive TokenKind where
  | number
  | hex
  | register
  | plus
  | minus
  | star
  | slash
  | equal
  | notEqual
  | and
  | or
  | leftParen
  | rightParen
  | deref
  | neg
  deriving DecidableEq, Repr, Inhabited

namespace TokenKind

def isOperand : TokenKind → Bool
  | number | hex | register => true
  | _ => false

def isUnary : TokenKind → Bool
  | deref | neg => true
  | _ => false

def isBinary : TokenKind → Bool
  | plus | minus | star | slash | equal | notEqual | and | or => true
  | _ => false

def isOperator (kind : TokenKind) : Bool :=
  kind.isBinary || kind.isUnary

def rank? : TokenKind → Option Nat
  | or => some 0
  | and => some 1
  | equal | notEqual => some 2
  | plus | minus => some 3
  | star | slash => some 4
  | neg | deref => some 5
  | number | hex | register | leftParen | rightParen => none

def name : TokenKind → String
  | number => "number"
  | hex => "hex"
  | register => "register"
  | plus => "+"
  | minus => "-"
  | star => "*"
  | slash => "/"
  | equal => "=="
  | notEqual => "!="
  | and => "&&"
  | or => "||"
  | leftParen => "("
  | rightParen => ")"
  | deref => "deref"
  | neg => "neg"

end TokenKind

/-- A piece of an expression text with its kind; the text may be cut short, the span never is. -/
structure Token where
  kind : TokenKind
  text : String
  span : Span
  deriving DecidableEq, Repr, Inhabited

def Token.label (token : Token) : String :=
  if token.kind.isOperand then
    token.kind.name ++ "(" ++ token.text ++ ")"
  else
    token.kind.name

abbrev TokenStream := List Token

namespace TokenStream

def kinds (stream : TokenStream) : List TokenKind :=
  stream.map (·.kind)

def kindAt? (stream : TokenStream) (index : Nat) : Option TokenKind :=
  stream[index]?.map (·.kind)

def spanAt? (stream : TokenStream) (index : Nat) : Option Span :=
  stream[index]?.map (·.span)

def endSpan (stream : TokenStream) : Span :=
  match stream.getLast? with
  | some token => Span.point token.span.stop
  | none => Span.point 0

def spanRange (stream : TokenStream) (first last : Nat) : Span :=
  match stream[first]? with
  | some head =>
      match stream[last]? with
      | some tail => if first ≤ last then head.span.merge tail.span else Span.point head.span.start
      | none => Span.point head.span.start
  | none => stream.endSpan

/-- The empty range where an operand is missing: before the token at the index, or after the last
token. -/
def gapSpan (stream : TokenStream) (index : Nat) : Span :=
  match stream.spanAt? index with
  | some span => Span.point span.start
  | none => stream.endSpan

def setKind (stream : TokenStream) (index : Nat) (kind : TokenKind) : TokenStream :=
  stream.modify index fun token => { token with kind }

def layOut : Nat → List (TokenKind × String) → TokenStream
  | _, [] => []
  | start, (kind, text) :: rest =>
      let stop := start + text.utf8ByteSize
      ⟨kind, text, ⟨start, stop⟩⟩ :: layOut stop rest

def listing (stream : TokenStream) : String :=
  "[" ++ " ".intercalate (stream.map Token.label) ++ "]"

end TokenStream

end DebugExpr
