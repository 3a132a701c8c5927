import DebugExpr.Machine.Memory
import DebugExpr.Machine.Registers
import Std.Data.TreeMap

/-!
Machine images: what a guest machine is set up from. Building one writes the registers in the order
of their names and then lays out the memory.
-/

namespace DebugExpr

structure SegmentImage (size : WordSize) where
  base : Word size
  length : Nat := 0
  words : List (Word size) := []

structure MachineImage (size : WordSize) where
  embedded : Bool := false
  pc : Word size := 0
  registers : Std.TreeMap String (Word size) := {}
  memory : List (SegmentImage size) := []

inductive ImageError where
  | register (error : RegisterError)
  | memory (base : Nat) (error : MemoryError)
  deriving DecidableEq, Repr, Inhabited

namespace ImageError

def code : ImageError → Log.Code
  | register _ => .invalidMachineImage
  | memory _ error => error.code

def message : ImageError → String
  | register error => "Invalid register entry: " ++ error.message
  | memory base error =>
      "Memory segment at " ++ Text.hexText base ++ " is invalid: " ++ error.message

end ImageError

structure Machine (size : WordSize) where
  registers : RegisterFile size
  memory : SegmentedMemory size

def Machine.guest {size : WordSize} (machine : Machine size) : Guest size where
  readRegister := machine.registers.read?
  readMemory := machine.memory.read

def defaultSegmentLength : Nat := 0x10000

def SegmentImage.build {size : WordSize} (segment : SegmentImage size) :
    Except ImageError (PhysicalMemory size) :=
  let length := max segment.length (segment.words.length * size.bytes)
  match (PhysicalMemory.zeroed segment.base length).loadWords segment.base segment.words with
  | .ok memory => .ok memory
  | .error error => .error (.memory segment.base.toNat error)

namespace MachineImage

variable {size : WordSize}

def writeRegisters : RegisterFile size → List (String × Word size) →
    Except ImageError (RegisterFile size)
  | registers, [] => .ok registers
  | registers, (name, value) :: rest =>
      match registers.setNamed name value with
      | .ok written => writeRegisters written rest
      | .error error => .error (.register error)

def buildMemory (image : MachineImage size) : Except ImageError (SegmentedMemory size) :=
  if image.memory.isEmpty then
    .ok [PhysicalMemory.zeroed PhysicalMemory.defaultBase defaultSegmentLength]
  else
    image.memory.mapM SegmentImage.build

def build (image : MachineImage size) : Except ImageError (Machine size) := do
  let registers ←
    writeRegisters { embedded := image.embedded, pc := image.pc } image.registers.toList
  let memory ← image.buildMemory
  return { registers, memory }

end MachineImage

end DebugExpr
