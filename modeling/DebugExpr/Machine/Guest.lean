import DebugExpr.Log.Code
import DebugExpr.Word

/-!
What an evaluation can read of the guest machine: registers by name and memory by address.
-/

namespace DebugExpr

inductive MemoryError where
  | outOfBounds (address width : Nat)
  | unsupportedWidth (width : Nat)
  deriving DecidableEq, Repr, Inhabited

namespace MemoryError

def code : MemoryError → Log.Code
  | outOfBounds .. => .unreadableAddress
  | unsupportedWidth _ => .unsupportedWidth

def message : MemoryError → String
  | outOfBounds address width =>
      "Address " ++ Text.hexText address ++ " (+" ++ toString width ++
        " bytes) is outside guest memory"
  | unsupportedWidth width => "Unsupported read width: " ++ toString width ++ " bytes"

end MemoryError

structure Guest (size : WordSize) where
  /-- The value of the register of a name, as the expression spells it. -/
  readRegister : String → Option (Word size)
  /-- The little-endian value of so many bytes from an address on. -/
  readMemory : Word size → Nat → Except MemoryError (Word size)

def Guest.absent (size : WordSize) : Guest size where
  readRegister _ := none
  readMemory address width := .error (.outOfBounds address.toNat width)

def Guest.caption : String := "EvalContext \x7b .. \x7d"

end DebugExpr
