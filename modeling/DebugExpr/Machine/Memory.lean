import DebugExpr.Machine.Guest

/-!
Guest memory: a run of bytes from a base address on, and several such runs read as one. Words are
little-endian. Memory is changed in place, by updates that check their range before they touch a
byte.
-/

namespace DebugExpr

def littleEndianValue : List UInt8 → Nat
  | [] => 0
  | byte :: rest => byte.toNat + 256 * littleEndianValue rest

def littleEndianBytes : Nat → Nat → List UInt8
  | 0, _ => []
  | width + 1, value => UInt8.ofNat (value % 256) :: littleEndianBytes width (value / 256)

/-- The least number that is too large for a size or an offset, which have 64 bits. -/
def indexLimit : Nat := Nat.pow 2 64

def index? (number : Nat) : Option Nat :=
  if number < indexLimit then some number else none

structure PhysicalMemory (size : WordSize) where
  base : Word size
  bytes : Array UInt8
  deriving DecidableEq, Repr

namespace PhysicalMemory

variable {size : WordSize}

def defaultBase : Word size :=
  BitVec.ofNat size.bits 0x80000000

def zeroed (base : Word size) (length : Nat) : PhysicalMemory size :=
  ⟨base, Array.replicate length 0⟩

def checkWidth (size : WordSize) (width : Nat) : Except MemoryError Unit :=
  if (width = 1 ∨ width = 2 ∨ width = 4 ∨ width = 8) ∧ width ≤ size.bytes then
    .ok ()
  else
    .error (.unsupportedWidth width)

def offset? (memory : PhysicalMemory size) (address : Word size) (width : Nat) : Option Nat := do
  let distance ← Word.difference? address memory.base
  let start ← index? distance.toNat
  let stop ← index? (start + width)
  if stop ≤ memory.bytes.size then some start else none

def offset (memory : PhysicalMemory size) (address : Word size) (width : Nat) :
    Except MemoryError Nat :=
  match memory.offset? address width with
  | some start => .ok start
  | none => .error (.outOfBounds address.toNat width)

def overwrite (bytes : Array UInt8) : Nat → List UInt8 → Array UInt8
  | _, [] => bytes
  | offset, byte :: rest => overwrite (bytes.setIfInBounds offset byte) (offset + 1) rest

def read (memory : PhysicalMemory size) (address : Word size) (width : Nat) :
    Except MemoryError (Word size) := do
  checkWidth size width
  let start ← memory.offset address width
  return BitVec.ofNat size.bits
    (littleEndianValue (memory.bytes.extract start (start + width)).toList)

def put (memory : PhysicalMemory size) (start : Nat) (data : List UInt8) : PhysicalMemory size :=
  { memory with bytes := overwrite memory.bytes start data }

end PhysicalMemory

abbrev MemoryUpdate (size : WordSize) := ExceptT MemoryError (StateM (PhysicalMemory size)) Unit

namespace MemoryUpdate

variable {size : WordSize}

def load (address : Word size) (data : List UInt8) : MemoryUpdate size := do
  let memory ← get
  let start ← memory.offset address data.length
  set (memory.put start data)

def write (address : Word size) (width : Nat) (value : Word size) : MemoryUpdate size := do
  PhysicalMemory.checkWidth size width
  let memory ← get
  let start ← memory.offset address width
  set (memory.put start (littleEndianBytes width value.toNat))

def loadWords (address : Word size) (words : List (Word size)) : MemoryUpdate size :=
  load address (words.flatMap fun word => littleEndianBytes size.bytes word.toNat)

end MemoryUpdate

namespace PhysicalMemory

variable {size : WordSize}

def updated (memory : PhysicalMemory size) (update : MemoryUpdate size) :
    Except MemoryError (PhysicalMemory size) :=
  match update.run memory with
  | (.ok (), after) => .ok after
  | (.error error, _) => .error error

def load (memory : PhysicalMemory size) (address : Word size) (data : List UInt8) :
    Except MemoryError (PhysicalMemory size) :=
  memory.updated (MemoryUpdate.load address data)

def write (memory : PhysicalMemory size) (address : Word size) (width : Nat) (value : Word size) :
    Except MemoryError (PhysicalMemory size) :=
  memory.updated (MemoryUpdate.write address width value)

def loadWords (memory : PhysicalMemory size) (address : Word size) (words : List (Word size)) :
    Except MemoryError (PhysicalMemory size) :=
  memory.updated (MemoryUpdate.loadWords address words)

end PhysicalMemory

/-- Several runs of bytes; a read is served by the first that has all of its bytes. -/
abbrev SegmentedMemory (size : WordSize) := List (PhysicalMemory size)

def SegmentedMemory.read {size : WordSize} :
    SegmentedMemory size → Word size → Nat → Except MemoryError (Word size)
  | [], address, width => .error (.outOfBounds address.toNat width)
  | segment :: rest, address, width =>
      match segment.read address width with
      | .error (.outOfBounds _ _) => SegmentedMemory.read rest address width
      | result => result

end DebugExpr
