import DebugExpr.Proofs.Factorization
import DebugExpr.Proofs.Meaning
import DebugExpr.Proofs.Numerals

/-!
Expressions apart from the texts that write them. A layout is an expression with the parentheses and
the numerals of one text for it; its rules say where parentheses cannot be left out.
-/

namespace DebugExpr

inductive Operator where
  | plus
  | minus
  | star
  | slash
  | equal
  | notEqual
  | and
  | or
  deriving DecidableEq, Repr

namespace Operator

def kind : Operator → TokenKind
  | plus => .plus
  | minus => .minus
  | star => .star
  | slash => .slash
  | equal => .equal
  | notEqual => .notEqual
  | and => .and
  | or => .or

def characters : Operator → List Char
  | plus => ['+']
  | minus => ['-']
  | star => ['*']
  | slash => ['/']
  | equal => ['=', '=']
  | notEqual => ['!', '=']
  | and => ['&', '&']
  | or => ['|', '|']

def rank : Operator → Nat
  | or => 0
  | and => 1
  | equal | notEqual => 2
  | plus | minus => 3
  | star | slash => 4

def bindsMinus : Operator → Bool
  | equal | notEqual | and | or => true
  | plus | minus | star | slash => false

end Operator

structure RegisterName where
  name : String
  listed : name ∈ Lexer.lexableRegisters
  deriving DecidableEq, Repr

def RegisterName.text (register : RegisterName) : String :=
  String.ofList ('$' :: register.name.toList)

inductive Failure where
  | literalOutOfRange
  | unresolvedRegister (name : String)
  | unreadableAddress (address : Nat) (cause : MemoryError)
  | divisionByZero
  deriving DecidableEq, Repr

def EvalError.failure? : EvalError → Option Failure
  | literalOutOfRange .. => some .literalOutOfRange
  | unresolvedRegister name _ => some (.unresolvedRegister name)
  | unreadableAddress address _ cause => some (.unreadableAddress address cause)
  | divisionByZero _ => some .divisionByZero
  | _ => none

inductive Expression where
  | literal (value : Nat)
  | register (name : RegisterName)
  | neg (operand : Expression)
  | deref (operand : Expression)
  | binary (operator : Operator) (left right : Expression)
  deriving DecidableEq, Repr

section Values

variable {size : WordSize}

def Operator.apply (operator : Operator) (left right : Word size) : Except Failure (Word size) :=
  match operator with
  | plus => .ok (Word.wrap ((left.toNat : Int) + right.toNat))
  | minus => .ok (Word.wrap ((left.toNat : Int) - right.toNat))
  | star => .ok (Word.wrap ((left.toNat : Int) * right.toNat))
  | slash =>
      if right.toNat = 0 then
        .error .divisionByZero
      else
        .ok (Word.wrap ((left.toNat / right.toNat : Nat) : Int))
  | equal => .ok (ParseTree.truth (left.toNat = right.toNat))
  | notEqual => .ok (ParseTree.truth (left.toNat ≠ right.toNat))
  | and => .ok (ParseTree.truth (left.toNat ≠ 0 ∧ right.toNat ≠ 0))
  | or => .ok (ParseTree.truth (left.toNat ≠ 0 ∨ right.toNat ≠ 0))

def Expression.value (policy : UnresolvedPolicy) (guest : Guest size) :
    Expression → Except Failure (Word size)
  | literal value => if value < size.limit then .ok (Word.wrap value) else .error .literalOutOfRange
  | register name =>
      match guest.readRegister name.text, policy with
      | some value, _ => .ok value
      | none, .error => .error (.unresolvedRegister name.text)
      | none, .zero => .ok (Word.wrap 0)
  | neg operand => do
      let value ← operand.value policy guest
      .ok (Word.wrap (-(value.toNat : Int)))
  | deref operand => do
      let address ← operand.value policy guest
      match guest.readMemory address size.bytes with
      | .ok value => .ok value
      | .error cause => .error (.unreadableAddress address.toNat cause)
  | binary operator left right => do
      let leftValue ← left.value policy guest
      let rightValue ← right.value policy guest
      operator.apply leftValue rightValue

end Values

inductive Layout where
  | literal (numeral : Numeral)
  | register (name : RegisterName)
  | neg (operand : Layout)
  | deref (operand : Layout)
  | binary (operator : Operator) (left right : Layout)
  | group (inner : Layout)
  deriving DecidableEq, Repr

namespace Layout

def expression : Layout → Expression
  | literal numeral => .literal numeral.value
  | register name => .register name
  | neg operand => .neg operand.expression
  | deref operand => .deref operand.expression
  | binary operator left right => .binary operator left.expression right.expression
  | group inner => inner.expression

def operator? : Layout → Option Operator
  | binary operator _ _ => some operator
  | _ => none

def opensWithMinus : Layout → Bool
  | neg _ => true
  | binary _ left _ => left.opensWithMinus
  | _ => false

/-- Parentheses stand around operands of looser operators, and on the right side of equally tight
ones. -/
def Guarded : Layout → Prop
  | literal _ => True
  | register _ => True
  | neg operand => operand.operator? = none ∧ operand.Guarded
  | deref operand => operand.operator? = none ∧ operand.Guarded
  | binary operator left right =>
      (∀ inner ∈ left.operator?, operator.rank ≤ inner.rank) ∧
        (∀ inner ∈ right.operator?, operator.rank < inner.rank) ∧
        left.Guarded ∧ right.Guarded
  | group inner => inner.Guarded

/-- Parentheses stand around what opens with a minus after a negation, a comparison or a logical
operator. -/
def Apart : Layout → Prop
  | literal _ => True
  | register _ => True
  | neg operand => operand.opensWithMinus = false ∧ operand.Apart
  | deref operand => operand.Apart
  | binary operator left right =>
      (operator.bindsMinus = true → right.opensWithMinus = false) ∧ left.Apart ∧ right.Apart
  | group inner => inner.Apart

def numerals : Layout → List Numeral
  | literal numeral => [numeral]
  | register _ => []
  | neg operand => operand.numerals
  | deref operand => operand.numerals
  | binary _ left right => left.numerals ++ right.numerals
  | group inner => inner.numerals

def nesting : Layout → Nat
  | literal _ => 0
  | register _ => 0
  | neg operand => operand.nesting + 1
  | deref operand => operand.nesting + 1
  | binary _ left right => max left.nesting right.nesting
  | group inner => inner.nesting + 1

def pieces : Layout → List Lexer.Piece
  | literal numeral => [⟨some numeral.kind, numeral.characters⟩]
  | register name => [⟨some .register, '$' :: name.name.toList⟩]
  | neg operand => ⟨some .minus, ['-']⟩ :: operand.pieces
  | deref operand => ⟨some .star, ['*']⟩ :: operand.pieces
  | binary operator left right =>
      left.pieces ++ ⟨some operator.kind, operator.characters⟩ :: right.pieces
  | group inner => ⟨some .leftParen, ['(']⟩ :: inner.pieces ++ [⟨some .rightParen, [')']⟩]

end Layout

inductive Spaced : List Lexer.Piece → List Char → Prop
  | nil (count : Nat) : Spaced [] (List.replicate count ' ')
  | cons (count : Nat) {piece pieces rest} : Spaced pieces rest →
      Spaced (piece :: pieces) (List.replicate count ' ' ++ (piece.characters ++ rest))

end DebugExpr
