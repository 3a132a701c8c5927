import DebugExpr.Machine.Image
import DebugExpr.Toml.Decode

/-!
Machine images written in TOML.
-/

namespace DebugExpr

open Toml (Record Value Fields)

variable {size : WordSize}

namespace Toml

def Value.word? (value : Value) : Option (Word size) :=
  (value.natural? size.limit).map (BitVec.ofNat size.bits)

def Value.registers? (value : Value) : Option (Std.TreeMap String (Word size)) := do
  let fields ← value.fields?
  let entries ← fields.mapM fun (name, word) => word.word?.map fun value => (name, value)
  return Std.TreeMap.ofList entries

end Toml

def SegmentImage.ofValue? (value : Value) : Option (SegmentImage size) := do
  let record ← Record.ofValue? value
  let base ← record.required? 0 "base" Value.word?
  let length ← record.optional? 1 "size" 0 (Value.natural? (Nat.pow 2 64))
  let words ← record.optional? 2 "words" [] (Value.list? Value.word?)
  return { base, length, words }

namespace MachineImage

def ofFields? (fields : Fields) : Option (MachineImage size) := do
  let record := Record.named fields
  let embedded ← record.optional? 0 "embedded" false Value.boolean?
  let pc ← record.optional? 1 "pc" 0 Value.word?
  let registers ← record.optional? 2 "registers" {} Value.registers?
  let memory ← record.optional? 3 "memory" [] (Value.list? SegmentImage.ofValue?)
  return { embedded, pc, registers, memory }

def ofToml? (text : String) : Option (MachineImage size) :=
  (Toml.readDocument? text).bind ofFields?

end MachineImage

end DebugExpr
