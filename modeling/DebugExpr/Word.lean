import DebugExpr.Text.Numeral

/-!
Machine words. A guest has words of 32 or 64 bits; arithmetic wraps, division is unsigned.
-/

namespace DebugExpr

inductive WordSize where
  | bits32
  | bits64
  deriving DecidableEq, Repr, Inhabited

namespace WordSize

def bits : WordSize → Nat
  | bits32 => 32
  | bits64 => 64

def bytes : WordSize → Nat
  | bits32 => 4
  | bits64 => 8

def limit (size : WordSize) : Nat :=
  Nat.pow 2 size.bits

theorem bits_eq_bytes_mul_eight (size : WordSize) : size.bits = 8 * size.bytes := by
  cases size <;> rfl

end WordSize

abbrev Word (size : WordSize) := BitVec size.bits

namespace Word

variable {size : WordSize}

def ofBool (condition : Bool) : Word size :=
  if condition then 1 else 0

def read? (radix : Nat) (characters : List Char) : Option (Word size) :=
  (Text.readNumeral? radix size.limit characters).map (BitVec.ofNat size.bits)

def difference? (left right : Word size) : Option (Word size) :=
  if left < right then none else some (left - right)

def text (word : Word size) : String :=
  toString word.toNat

def paddedHex (word : Word size) : String :=
  Text.paddedHexText (2 * size.bytes) word.toNat

end Word

end DebugExpr
