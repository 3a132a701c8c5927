import DebugExpr.Machine.Guest

/-!
The integer registers of a RISC-V guest under their ABI names. Register zero always reads zero; the
embedded base has the first sixteen registers only. Registers are changed in place, by updates that
leave them alone when they fail.
-/

namespace DebugExpr

inductive RegisterError where
  | unknown (name : String)
  | unavailable (name : String)
  deriving DecidableEq, Repr, Inhabited

namespace RegisterError

def code : RegisterError → Log.Code
  | unknown _ => .invalidMachineImage
  | unavailable _ => .invalidMachineImage

def message : RegisterError → String
  | unknown name => "Unknown register '" ++ name ++ "'"
  | unavailable name => "Register '" ++ name ++ "' is not present in this register file"

end RegisterError

def registerNames : List String := [
  "$0", "ra", "sp", "gp", "tp", "t0", "t1", "t2", "s0", "s1", "a0", "a1", "a2", "a3", "a4", "a5",
  "a6", "a7", "s2", "s3", "s4", "s5", "s6", "s7", "s8", "s9", "s10", "s11", "t3", "t4", "t5", "t6"]

def bareName? (name : String) : Option String :=
  match name.toList with
  | '$' :: rest => some (String.ofList rest)
  | _ => none

def registerIndex? (name : String) : Option Nat :=
  match registerNames.idxOf? name with
  | some index => some index
  | none => (bareName? name).bind registerNames.idxOf?

structure RegisterFile (size : WordSize) where
  general : Vector (Word size) 32 := Vector.replicate 32 0
  pc : Word size := 0
  /-- Whether only the registers of the embedded base are present. -/
  embedded : Bool := false
  deriving DecidableEq, Repr

namespace RegisterFile

variable {size : WordSize}

def count (registers : RegisterFile size) : Nat :=
  if registers.embedded then 16 else 32

theorem count_le (registers : RegisterFile size) : registers.count ≤ 32 := by
  unfold count
  split <;> decide

def get? (registers : RegisterFile size) (index : Nat) : Option (Word size) :=
  if index < registers.count then registers.general[index]? else none

def read? (registers : RegisterFile size) (name : String) : Option (Word size) :=
  if name = "pc" ∨ name = "$pc" then
    some registers.pc
  else
    (registerIndex? name).bind registers.get?

def values (registers : RegisterFile size) : List (Word size) :=
  registers.general.toList.take registers.count

end RegisterFile

abbrev RegisterUpdate (size : WordSize) (α : Type) := StateM (RegisterFile size) α

namespace RegisterUpdate

variable {size : WordSize}

def write (index : Nat) (value : Word size) : RegisterUpdate size Bool := do
  let registers ← get
  if registers.count ≤ index then
    return false
  if index ≠ 0 then
    set { registers with general := registers.general.setIfInBounds index value }
  return true

def writeNamed (name : String) (value : Word size) :
    ExceptT RegisterError (RegisterUpdate size) Unit :=
  match registerIndex? name with
  | none => throw (.unknown name)
  | some index => do
      let present ← write index value
      if !present then throw (.unavailable name)

def writePc (value : Word size) : RegisterUpdate size Unit :=
  modify fun registers => { registers with pc := value }

end RegisterUpdate

namespace RegisterFile

variable {size : WordSize}

def set? (registers : RegisterFile size) (index : Nat) (value : Word size) :
    Option (RegisterFile size) :=
  match (RegisterUpdate.write index value).run registers with
  | (true, written) => some written
  | (false, _) => none

def setNamed (registers : RegisterFile size) (name : String) (value : Word size) :
    Except RegisterError (RegisterFile size) :=
  match (RegisterUpdate.writeNamed name value).run registers with
  | (.ok (), written) => .ok written
  | (.error error, _) => .error error

def setPc (registers : RegisterFile size) (value : Word size) : RegisterFile size :=
  ((RegisterUpdate.writePc value).run registers).2

end RegisterFile

end DebugExpr
