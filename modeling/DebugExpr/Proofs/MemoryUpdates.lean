import Mathlib
import DebugExpr.Machine.Memory

/-!
Guest memory as a map from addresses to bytes. Its range never changes; an update either stores its
bytes over its whole range, or reports an error and stores nothing; and a read gives the bytes that
were last stored, in little-endian order.
-/

namespace DebugExpr

theorem length_littleEndianBytes (width value : Nat) :
    (littleEndianBytes width value).length = width := by
  induction width generalizing value with
  | zero => rfl
  | succ width ih => rw [littleEndianBytes, List.length_cons, ih]

theorem getElem?_littleEndianBytes {width place : Nat} (inside : place < width) (value : Nat) :
    (littleEndianBytes width value)[place]? = some (UInt8.ofNat (value / 256 ^ place % 256)) := by
  induction width generalizing place value with
  | zero => omega
  | succ width ih =>
      cases place with
      | zero => simp [littleEndianBytes]
      | succ place =>
          rw [littleEndianBytes, List.getElem?_cons_succ, ih (by omega), Nat.div_div_eq_div_mul,
            Nat.pow_succ']

theorem littleEndianBytes_eq (width value : Nat) :
    littleEndianBytes width value = (List.range width).map fun place =>
      UInt8.ofNat (value / 256 ^ place % 256) := by
  apply List.ext_getElem?
  intro place
  by_cases inside : place < width
  · rw [getElem?_littleEndianBytes inside, List.getElem?_map, List.getElem?_range inside,
      Option.map_some]
  · rw [List.getElem?_eq_none (by rw [length_littleEndianBytes]; omega),
      List.getElem?_eq_none (by simp; omega)]

theorem littleEndianValue_lt (bytes : List UInt8) :
    littleEndianValue bytes < 256 ^ bytes.length := by
  induction bytes with
  | nil => simp [littleEndianValue]
  | cons byte rest ih =>
      have small := byte.toNat_lt
      rw [littleEndianValue, List.length_cons, Nat.pow_succ]
      omega

theorem littleEndianValue_eq_sum {bytes : List UInt8} {stored : Nat → UInt8}
    (same : ∀ place < bytes.length, bytes[place]? = some (stored place)) :
    littleEndianValue bytes = ∑ place ∈ Finset.range bytes.length,
      (stored place).toNat * 256 ^ place := by
  induction bytes generalizing stored with
  | nil => rfl
  | cons byte rest ih =>
      have first : byte = stored 0 := by simpa using same 0 (by simp)
      have later (place : Nat) (inside : place < rest.length) :
          rest[place]? = some (stored (place + 1)) := by
        simpa using same (place + 1) (by simpa using inside)
      have others := ih later
      have shifted : 256 * ∑ place ∈ Finset.range rest.length,
          (stored (place + 1)).toNat * 256 ^ place =
          ∑ place ∈ Finset.range rest.length, (stored (place + 1)).toNat * 256 ^ (place + 1) := by
        rw [Finset.mul_sum]
        exact Finset.sum_congr rfl fun place _ => by ring
      rw [littleEndianValue, others, List.length_cons, Finset.sum_range_succ', first, shifted,
        Nat.pow_zero, Nat.mul_one, Nat.add_comm]

theorem getElem?_flatMap_of_length {α β : Type} {length : Nat} (positive : 0 < length)
    {pieces : α → List β} (lengths : ∀ item, (pieces item).length = length) (items : List α)
    (place : Nat) :
    (items.flatMap pieces)[place]? = items[place / length]?.bind fun item =>
      (pieces item)[place % length]? := by
  induction items generalizing place with
  | nil => simp
  | cons item rest ih =>
      rw [List.flatMap_cons]
      by_cases inside : place < length
      · rw [List.getElem?_append_left (by rwa [lengths]), Nat.div_eq_of_lt inside,
          Nat.mod_eq_of_lt inside]
        rfl
      · have beyond : length ≤ place := Nat.not_lt.mp inside
        rw [List.getElem?_append_right (by rwa [lengths]), lengths, ih, Nat.mod_eq_sub_mod beyond,
          Nat.div_eq_sub_div positive beyond, List.getElem?_cons_succ]

variable {size : WordSize}

theorem Word.difference?_eq_some_iff {left right difference : Word size} :
    Word.difference? left right = some difference ↔
      right.toNat ≤ left.toNat ∧ difference.toNat = left.toNat - right.toNat := by
  unfold difference?
  by_cases below : left < right
  · have numbers : left.toNat < right.toNat := below
    rw [if_pos below]
    constructor
    · intro found
      contradiction
    · rintro ⟨bound, _⟩
      omega
  · have numbers : right.toNat ≤ left.toNat := BitVec.not_lt.mp below
    rw [if_neg below, Option.some.injEq, BitVec.toNat_eq, BitVec.toNat_sub_of_le numbers]
    constructor
    · exact fun same => ⟨numbers, same.symm⟩
    · exact fun same => same.2.symm

theorem index?_eq_some_iff {number index : Nat} :
    index? number = some index ↔ number < indexLimit ∧ number = index := by
  unfold index?
  split <;> simp_all

namespace PhysicalMemory

def Maps (memory : PhysicalMemory size) (address : Word size) (length : Nat) : Prop :=
  memory.base.toNat ≤ address.toNat ∧ address.toNat - memory.base.toNat + length ≤ memory.bytes.size

instance (memory : PhysicalMemory size) (address : Word size) (length : Nat) :
    Decidable (memory.Maps address length) :=
  inferInstanceAs (Decidable (_ ∧ _))

def byteAt? (memory : PhysicalMemory size) (place : Nat) : Option UInt8 :=
  if memory.base.toNat ≤ place then memory.bytes[place - memory.base.toNat]? else none

theorem offset?_eq_some_iff_of_limit (memory : PhysicalMemory size) (address : Word size)
    (length start : Nat) :
    memory.offset? address length = some start ↔
      memory.Maps address length ∧ start = address.toNat - memory.base.toNat ∧
        start + length < indexLimit := by
  unfold offset? Maps
  simp only [Option.bind_eq_bind, Option.bind_eq_some_iff, Word.difference?_eq_some_iff,
    index?_eq_some_iff]
  constructor
  · rintro ⟨distance, ⟨above, same⟩, _, ⟨_, rfl⟩, _, ⟨limited, rfl⟩, inside⟩
    split at inside
    · rename_i bounded
      cases inside
      exact ⟨⟨above, by omega⟩, same, limited⟩
    · contradiction
  · rintro ⟨⟨above, bounded⟩, rfl, limited⟩
    have distance : (address - memory.base).toNat = address.toNat - memory.base.toNat :=
      BitVec.toNat_sub_of_le above
    refine ⟨address - memory.base, ⟨above, distance⟩, _, ⟨?_, rfl⟩, _, ⟨?_, rfl⟩, ?_⟩
    · omega
    · omega
    · rw [if_pos (by omega), distance]

theorem offset?_eq_some_iff {memory : PhysicalMemory size} (fits : memory.bytes.size < indexLimit)
    {address : Word size} {length start : Nat} :
    memory.offset? address length = some start ↔
      memory.Maps address length ∧ start = address.toNat - memory.base.toNat := by
  rw [offset?_eq_some_iff_of_limit]
  constructor
  · rintro ⟨mapped, same, _⟩
    exact ⟨mapped, same⟩
  · rintro ⟨mapped, same⟩
    have bounded := mapped.2
    exact ⟨mapped, same, by omega⟩

/-- No step of the computation of an offset leaves the range of its type where the result would not
be refused anyway. -/
theorem offset_eq {memory : PhysicalMemory size} (fits : memory.bytes.size < indexLimit)
    (address : Word size) (length : Nat) :
    memory.offset address length =
      if memory.Maps address length then .ok (address.toNat - memory.base.toNat)
      else .error (.outOfBounds address.toNat length) := by
  unfold offset
  by_cases mapped : memory.Maps address length
  · rw [(offset?_eq_some_iff fits).mpr ⟨mapped, rfl⟩, if_pos mapped]
  · have absent : memory.offset? address length = none := by
      rw [Option.eq_none_iff_forall_ne_some]
      exact fun start found => mapped ((offset?_eq_some_iff fits).mp found).1
    rw [absent, if_neg mapped]

theorem size_overwrite (bytes : Array UInt8) (start : Nat) (data : List UInt8) :
    (overwrite bytes start data).size = bytes.size := by
  induction data generalizing bytes start with
  | nil => rfl
  | cons byte rest ih => rw [overwrite, ih, Array.size_setIfInBounds]

theorem getElem?_overwrite {bytes : Array UInt8} {start : Nat} {data : List UInt8}
    (inside : start + data.length ≤ bytes.size) (place : Nat) :
    (overwrite bytes start data)[place]? =
      if start ≤ place ∧ place < start + data.length then data[place - start]?
        else bytes[place]? := by
  induction data generalizing bytes start with
  | nil =>
      rw [overwrite, if_neg]
      simp only [List.length_nil]
      omega
  | cons byte rest ih =>
      rw [List.length_cons] at inside
      rw [overwrite, ih (by rw [Array.size_setIfInBounds]; omega), List.length_cons]
      by_cases first : place = start
      · subst first
        rw [if_neg (by omega), if_pos (by omega),
          Array.getElem?_setIfInBounds_self_of_lt (by omega), Nat.sub_self]
        rfl
      · by_cases later : start ≤ place ∧ place < start + (rest.length + 1)
        · have shifted : place - start = place - (start + 1) + 1 := by omega
          rw [if_pos (by omega), if_pos later, shifted, List.getElem?_cons_succ]
        · rw [if_neg (by omega), if_neg later, Array.getElem?_setIfInBounds_ne (fun same =>
            first same.symm)]

@[simp]
theorem base_put (memory : PhysicalMemory size) (start : Nat) (data : List UInt8) :
    (memory.put start data).base = memory.base := rfl

@[simp]
theorem size_put (memory : PhysicalMemory size) (start : Nat) (data : List UInt8) :
    (memory.put start data).bytes.size = memory.bytes.size :=
  size_overwrite ..

theorem byteAt?_put {memory : PhysicalMemory size} {address : Word size} {data : List UInt8}
    (mapped : memory.Maps address data.length) (place : Nat) :
    (memory.put (address.toNat - memory.base.toNat) data).byteAt? place =
      if address.toNat ≤ place ∧
        place < address.toNat + data.length then data[place - address.toNat]?
      else memory.byteAt? place := by
  obtain ⟨above, inside⟩ := mapped
  unfold byteAt?
  rw [base_put, put, getElem?_overwrite inside]
  by_cases low : memory.base.toNat ≤ place
  · rw [if_pos low, if_pos low]
    by_cases covered : address.toNat ≤ place ∧ place < address.toNat + data.length
    · have shifted : place - memory.base.toNat - (address.toNat - memory.base.toNat) =
        place - address.toNat := by omega
      rw [if_pos (by omega), if_pos covered, shifted]
    · rw [if_neg (by omega), if_neg covered]
  · rw [if_neg low, if_neg (by omega), if_neg low]

end PhysicalMemory

def WidthSupported (size : WordSize) (width : Nat) : Prop :=
  width ∈ [1, 2, 4, 8] ∧ width ≤ size.bytes

instance (size : WordSize) (width : Nat) : Decidable (WidthSupported size width) :=
  inferInstanceAs (Decidable (_ ∧ _))

theorem PhysicalMemory.checkWidth_eq (size : WordSize) (width : Nat) :
    checkWidth size width = if WidthSupported size width then .ok ()
      else .error (.unsupportedWidth width) := by
  simp [checkWidth, WidthSupported]

namespace MemoryUpdate

theorem run_get (next : PhysicalMemory size → MemoryUpdate size) (memory : PhysicalMemory size) :
    ((do next (← get)) : MemoryUpdate size).run memory = (next memory).run memory := rfl

theorem run_check {α : Type} (check : Except MemoryError α) (next : α → MemoryUpdate size)
    (memory : PhysicalMemory size) :
    ((do next (← check)) : MemoryUpdate size).run memory =
      match check with
      | .ok value => (next value).run memory
      | .error error => (.error error, memory) := by
  cases check <;> rfl

theorem run_store {memory : PhysicalMemory size} (fits : memory.bytes.size < indexLimit)
    (address : Word size) (length : Nat) (data : List UInt8) :
    ((do
      let memory ← get
      let start ← memory.offset address length
      set (memory.put start data)) : MemoryUpdate size).run memory =
      if memory.Maps address length
        then (.ok (), memory.put (address.toNat - memory.base.toNat) data)
      else (.error (.outOfBounds address.toNat length), memory) := by
  rw [run_get, run_check, PhysicalMemory.offset_eq fits]
  by_cases mapped : memory.Maps address length
  · rw [if_pos mapped, if_pos mapped]
    rfl
  · rw [if_neg mapped, if_neg mapped]

theorem run_load {memory : PhysicalMemory size} (fits : memory.bytes.size < indexLimit)
    (address : Word size) (data : List UInt8) :
    (load address data).run memory =
      if memory.Maps address data.length
        then (.ok (), memory.put (address.toNat - memory.base.toNat) data)
      else (.error (.outOfBounds address.toNat data.length), memory) :=
  run_store fits address data.length data

theorem run_write {memory : PhysicalMemory size} (fits : memory.bytes.size < indexLimit)
    (address : Word size) (width : Nat) (value : Word size) :
    (write address width value).run memory =
      if WidthSupported size width then
        if memory.Maps address width then
          (.ok (), memory.put (address.toNat - memory.base.toNat)
            (littleEndianBytes width value.toNat))
        else
          (.error (.outOfBounds address.toNat width), memory)
      else
        (.error (.unsupportedWidth width), memory) := by
  rw [write, run_check, PhysicalMemory.checkWidth_eq]
  by_cases supported : WidthSupported size width
  · rw [if_pos supported, if_pos supported]
    exact run_store fits address width _
  · rw [if_neg supported, if_neg supported]

end MemoryUpdate

inductive MemoryOperation (size : WordSize) where
  | write (address : Word size) (width : Nat) (value : Word size)
  | load (address : Word size) (data : List UInt8)
  | loadWords (address : Word size) (words : List (Word size))

namespace MemoryOperation

def update : MemoryOperation size → MemoryUpdate size
  | write address width value => .write address width value
  | load address data => .load address data
  | loadWords address words => .loadWords address words

def address : MemoryOperation size → Word size
  | write address _ _ => address
  | load address _ => address
  | loadWords address _ => address

def length : MemoryOperation size → Nat
  | write _ width _ => width
  | load _ data => data.length
  | loadWords _ words => words.length * size.bytes

def byte? : MemoryOperation size → Nat → Option UInt8
  | write _ width value, place =>
      if place < width then some (UInt8.ofNat (value.toNat / 256 ^ place % 256)) else none
  | load _ data, place => data[place]?
  | loadWords _ words, place =>
      words[place / size.bytes]?.map fun word =>
        UInt8.ofNat (word.toNat / 256 ^ (place % size.bytes) % 256)

def Supported : MemoryOperation size → Prop
  | write _ width _ => WidthSupported size width
  | load _ _ => True
  | loadWords _ _ => True

instance (operation : MemoryOperation size) : Decidable operation.Supported :=
  match operation with
  | write _ width _ => inferInstanceAs (Decidable (WidthSupported size width))
  | load _ _ => inferInstanceAs (Decidable True)
  | loadWords _ _ => inferInstanceAs (Decidable True)

def data : MemoryOperation size → List UInt8
  | write _ width value => littleEndianBytes width value.toNat
  | load _ data => data
  | loadWords _ words => words.flatMap fun word => littleEndianBytes size.bytes word.toNat

theorem bytes_pos (size : WordSize) : 0 < size.bytes := by
  cases size <;> decide

theorem length_data (operation : MemoryOperation size) :
    operation.data.length = operation.length := by
  cases operation with
  | write address width value => exact length_littleEndianBytes ..
  | load address data => rfl
  | loadWords address words => simp [data, length, length_littleEndianBytes, List.length_flatMap]

theorem getElem?_data (operation : MemoryOperation size) (place : Nat) :
    operation.data[place]? = operation.byte? place := by
  cases operation with
  | write address width value =>
      rw [data, byte?]
      by_cases inside : place < width
      · rw [if_pos inside, getElem?_littleEndianBytes inside]
      · rw [if_neg inside, List.getElem?_eq_none (by rw [length_littleEndianBytes]; omega)]
  | load address data => rfl
  | loadWords address words =>
      rw [data, byte?, getElem?_flatMap_of_length (bytes_pos size) fun word =>
        length_littleEndianBytes ..]
      cases words[place / size.bytes]? with
      | none => rfl
      | some word => exact getElem?_littleEndianBytes (Nat.mod_lt _ (bytes_pos size)) _

/-- All that an operation can do: it is refused, by its width or by its range, or it stores its
bytes. -/
theorem run_update {memory : PhysicalMemory size} (fits : memory.bytes.size < indexLimit)
    (operation : MemoryOperation size) :
    operation.update.run memory =
      if operation.Supported then
        if memory.Maps operation.address operation.length then
          (.ok (), memory.put (operation.address.toNat - memory.base.toNat) operation.data)
        else
          (.error (.outOfBounds operation.address.toNat operation.length), memory)
      else
        (.error (.unsupportedWidth operation.length), memory) := by
  cases operation with
  | write address width value => exact MemoryUpdate.run_write fits address width value
  | load address data =>
      rw [if_pos (show (load address data).Supported from trivial)]
      exact MemoryUpdate.run_load fits address data
  | loadWords address words =>
      rw [if_pos (show (loadWords address words).Supported from trivial), ← length_data]
      exact MemoryUpdate.run_load fits address _

def Stores (initial : PhysicalMemory size) (place : Nat) (operation : MemoryOperation size) :
    Prop :=
  operation.Supported ∧ initial.Maps operation.address operation.length ∧
    operation.address.toNat ≤ place ∧ place < operation.address.toNat + operation.length

instance (initial : PhysicalMemory size) (place : Nat) (operation : MemoryOperation size) :
    Decidable (operation.Stores initial place) :=
  inferInstanceAs (Decidable (_ ∧ _))

section Run

variable {memory : PhysicalMemory size} (fits : memory.bytes.size < indexLimit)
  (operation : MemoryOperation size)
include fits

theorem base_run : (operation.update.run memory).2.base = memory.base := by
  rw [run_update fits]
  split
  · split <;> rfl
  · rfl

theorem size_run : (operation.update.run memory).2.bytes.size = memory.bytes.size := by
  rw [run_update fits]
  split
  · split
    · exact PhysicalMemory.size_put ..
    · rfl
  · rfl

theorem succeeds_iff : (operation.update.run memory).1 = .ok () ↔
    operation.Supported ∧ memory.Maps operation.address operation.length := by
  rw [run_update fits]
  split
  · split <;> simp_all
  · simp_all

theorem memory_run_of_refused
    (refused : ¬ (operation.Supported ∧ memory.Maps operation.address operation.length)) :
    (operation.update.run memory).2 = memory := by
  rw [run_update fits]
  split
  · split
    · exact absurd ⟨‹_›, ‹_›⟩ refused
    · rfl
  · rfl

theorem byteAt?_run (place : Nat) : (operation.update.run memory).2.byteAt? place =
    if operation.Stores memory place then operation.byte? (place - operation.address.toNat)
    else memory.byteAt? place := by
  rw [run_update fits]
  by_cases supported : operation.Supported
  · by_cases mapped : memory.Maps operation.address operation.length
    · have data : memory.Maps operation.address operation.data.length := by rwa [length_data]
      rw [if_pos supported, if_pos mapped, PhysicalMemory.byteAt?_put data, length_data,
        getElem?_data]
      simp only [Stores, supported, mapped, true_and]
    · rw [if_pos supported, if_neg mapped, if_neg fun stores => mapped stores.2.1]
  · rw [if_neg supported, if_neg fun stores => supported stores.1]

end Run

end MemoryOperation

def PhysicalMemory.afterAll (memory : PhysicalMemory size)
    (operations : List (MemoryOperation size)) :
    PhysicalMemory size :=
  operations.foldl (fun current operation => (operation.update.run current).2) memory

/-- The byte that was last stored at a place, or the one that was there from the start. -/
def lastStored? (initial : PhysicalMemory size) (operations : List (MemoryOperation size))
    (place : Nat) :
    Option UInt8 :=
  match operations.reverse.find? (·.Stores initial place) with
  | some operation => operation.byte? (place - operation.address.toNat)
  | none => initial.byteAt? place

theorem PhysicalMemory.afterAll_concat (memory : PhysicalMemory size)
    (operations : List (MemoryOperation size)) (operation : MemoryOperation size) :
    memory.afterAll (operations ++ [operation]) =
      (operation.update.run (memory.afterAll operations)).2 := by
  rw [afterAll, List.foldl_append]
  rfl

theorem lastStored?_concat (initial : PhysicalMemory size)
    (operations : List (MemoryOperation size)) (operation : MemoryOperation size) (place : Nat) :
    lastStored? initial (operations ++ [operation]) place =
      if operation.Stores initial place then operation.byte? (place - operation.address.toNat)
      else lastStored? initial operations place := by
  unfold lastStored?
  rw [List.reverse_append, List.reverse_singleton, List.singleton_append, List.find?_cons]
  by_cases stores : operation.Stores initial place <;> simp [stores]

/-- What memory does when it has gone through operations: it keeps its range, it takes an operation
or refuses it by the width and the range alone, and it gives back what was stored last. -/
structure ActsAsByteMap (initial : PhysicalMemory size) (operations : List (MemoryOperation size))
    (memory : PhysicalMemory size) : Prop where
  base : memory.base = initial.base
  length : memory.bytes.size = initial.bytes.size
  succeeds : ∀ operation : MemoryOperation size, (operation.update.run memory).1 = .ok () ↔
    operation.Supported ∧ initial.Maps operation.address operation.length
  unsupported : ∀ operation : MemoryOperation size, ¬ operation.Supported →
    (operation.update.run memory).1 = .error (.unsupportedWidth operation.length)
  outside : ∀ operation : MemoryOperation size, operation.Supported →
    ¬ initial.Maps operation.address operation.length →
      (operation.update.run memory).1 =
        .error (.outOfBounds operation.address.toNat operation.length)
  refused : ∀ operation : MemoryOperation size, (operation.update.run memory).1 ≠ .ok () →
    (operation.update.run memory).2 = memory
  stored : ∀ operation : MemoryOperation size, (operation.update.run memory).1 = .ok () →
    ∀ place, (operation.update.run memory).2.byteAt? place =
      if operation.address.toNat ≤ place ∧ place < operation.address.toNat + operation.length then
        operation.byte? (place - operation.address.toNat)
      else
        memory.byteAt? place
  last : ∀ place, memory.byteAt? place = lastStored? initial operations place
  reads : ∀ address width, (∃ value, memory.read address width = .ok value) ↔
    WidthSupported size width ∧ initial.Maps address width
  readUnsupported : ∀ address width, ¬ WidthSupported size width →
    memory.read address width = .error (.unsupportedWidth width)
  readOutside : ∀ address width, WidthSupported size width → ¬ initial.Maps address width →
    memory.read address width = .error (.outOfBounds address.toNat width)
  readValue : ∀ address width value, memory.read address width = .ok value →
    ∃ bytes : Nat → UInt8,
      (∀ place < width, lastStored? initial operations (address.toNat + place) =
        some (bytes place)) ∧
      value.toNat = ∑ place ∈ Finset.range width, (bytes place).toNat * 256 ^ place

namespace PhysicalMemory

theorem Maps.congr {first second : PhysicalMemory size} (base : first.base = second.base)
    (length : first.bytes.size = second.bytes.size) (address : Word size) (width : Nat) :
    first.Maps address width ↔ second.Maps address width := by
  rw [Maps, Maps, base, length]

section Run

variable {initial : PhysicalMemory size} (fits : initial.bytes.size < indexLimit)
  (operations : List (MemoryOperation size))
include fits

theorem range_afterAll : (initial.afterAll operations).base = initial.base ∧
    (initial.afterAll operations).bytes.size = initial.bytes.size := by
  induction operations using List.reverseRecOn with
  | nil => exact ⟨rfl, rfl⟩
  | append_singleton operations operation ih =>
      obtain ⟨base, length⟩ := ih
      have room : (initial.afterAll operations).bytes.size < indexLimit := by rwa [length]
      rw [afterAll_concat, operation.base_run room, operation.size_run room]
      exact ⟨base, length⟩

theorem byteAt?_afterAll (place : Nat) :
    (initial.afterAll operations).byteAt? place = lastStored? initial operations place := by
  induction operations using List.reverseRecOn with
  | nil => rfl
  | append_singleton operations operation ih =>
      obtain ⟨base, length⟩ := range_afterAll fits operations
      have room : (initial.afterAll operations).bytes.size < indexLimit := by rwa [length]
      have same : operation.Stores (initial.afterAll operations) place ↔
          operation.Stores initial place := by
        rw [MemoryOperation.Stores, MemoryOperation.Stores, Maps.congr base length]
      rw [afterAll_concat, operation.byteAt?_run room, lastStored?_concat, ih]
      simp only [same]

end Run

theorem read_eq {memory : PhysicalMemory size} (fits : memory.bytes.size < indexLimit)
    (address : Word size) (width : Nat) :
    memory.read address width =
      if WidthSupported size width then
        if memory.Maps address width then
          .ok (BitVec.ofNat size.bits (littleEndianValue ((memory.bytes.toList.drop
            (address.toNat - memory.base.toNat)).take width)))
        else
          .error (.outOfBounds address.toNat width)
      else
        .error (.unsupportedWidth width) := by
  rw [read, checkWidth_eq, offset_eq fits]
  by_cases supported : WidthSupported size width
  · rw [if_pos supported, if_pos supported]
    by_cases mapped : memory.Maps address width
    · rw [if_pos mapped, if_pos mapped]
      simp [bind, Except.bind, pure, Except.pure]
    · rw [if_neg mapped, if_neg mapped]
      rfl
  · rw [if_neg supported, if_neg supported]
    rfl

theorem pow_width_le (size : WordSize) {width : Nat} (supported : WidthSupported size width) :
    256 ^ width ≤ 2 ^ size.bits := by
  rw [size.bits_eq_bytes_mul_eight, Nat.pow_mul]
  exact Nat.pow_le_pow_right (by decide) supported.2

/-- What is read is the number that the bytes of the range stand for. -/
theorem toNat_of_read {memory : PhysicalMemory size} (fits : memory.bytes.size < indexLimit)
    {address : Word size} {width : Nat} {value : Word size}
    (found : memory.read address width = .ok value) :
    ∃ bytes : Nat → UInt8, (∀ place < width, memory.byteAt? (address.toNat + place) =
      some (bytes place)) ∧
      value.toNat = ∑ place ∈ Finset.range width, (bytes place).toNat * 256 ^ place := by
  rw [read_eq fits] at found
  split at found
  · rename_i supported
    split at found
    · rename_i mapped
      obtain ⟨above, inside⟩ := mapped
      cases found
      generalize start : address.toNat - memory.base.toNat = offset at inside ⊢
      have length : ((memory.bytes.toList.drop offset).take width).length = width := by
        rw [List.length_take, List.length_drop, Array.length_toList]
        omega
      have found (place : Nat) (near : place < width) :
          memory.bytes[offset + place]? = some (memory.bytes.getD (offset + place) 0) := by
        have within : offset + place < memory.bytes.size := by omega
        simp [Array.getD, within]
      have read (place : Nat) (near : place < width) :
          ((memory.bytes.toList.drop offset).take width)[place]? =
            some (memory.bytes.getD (offset + place) 0) := by
        rw [List.getElem?_take_of_lt near, List.getElem?_drop, Array.getElem?_toList,
          found place near]
      refine ⟨fun place => memory.bytes.getD (offset + place) 0, ?_, ?_⟩
      · intro place near
        have shifted : address.toNat + place - memory.base.toNat = offset + place := by omega
        rw [byteAt?, if_pos (by omega), shifted, found place near]
      · have small := littleEndianValue_lt ((memory.bytes.toList.drop offset).take width)
        rw [length] at small
        rw [BitVec.toNat_ofNat,
          Nat.mod_eq_of_lt (Nat.lt_of_lt_of_le small (pow_width_le size supported)),
          littleEndianValue_eq_sum (by rwa [length]), length]
    · contradiction
  · contradiction

end PhysicalMemory

/-- Through every run of operations, memory is a map of fixed range from addresses to bytes. -/
theorem actsAsByteMap_afterAll (initial : PhysicalMemory size)
    (fits : initial.bytes.size < indexLimit) (operations : List (MemoryOperation size)) :
    ActsAsByteMap initial operations (initial.afterAll operations) := by
  obtain ⟨base, length⟩ := initial.range_afterAll fits operations
  have last := initial.byteAt?_afterAll fits operations
  generalize initial.afterAll operations = memory at base length last
  have room : memory.bytes.size < indexLimit := by rwa [length]
  have maps := PhysicalMemory.Maps.congr base length
  exact {
    base, length, last
    succeeds operation := by rw [operation.succeeds_iff room, maps]
    unsupported operation unsupported := by rw [operation.run_update room, if_neg unsupported]
    outside operation supported outside := by
      rw [← maps] at outside
      rw [operation.run_update room, if_pos supported, if_neg outside]
    refused operation failed := by
      rw [ne_eq, operation.succeeds_iff room] at failed
      exact operation.memory_run_of_refused room failed
    stored operation succeeded place := by
      obtain ⟨supported, mapped⟩ := (operation.succeeds_iff room).mp succeeded
      rw [operation.byteAt?_run room]
      simp only [MemoryOperation.Stores, supported, mapped, true_and]
    reads address width := by
      rw [memory.read_eq room, ← maps]
      split
      · split <;> simp_all
      · simp_all
    readUnsupported address width unsupported := by rw [memory.read_eq room, if_neg unsupported]
    readOutside address width supported outside := by
      rw [← maps] at outside
      rw [memory.read_eq room, if_pos supported, if_neg outside]
    readValue address width value found := by
      simpa only [last] using PhysicalMemory.toNat_of_read room found }

def topMemory : PhysicalMemory .bits32 :=
  ⟨0xfffffff8, #[0, 1, 2, 3, 4, 5, 6, 7]⟩

def overlappingOperations : List (MemoryOperation .bits32) :=
  [.write 0xfffffffa 4 0x44332211, .loadWords 0xfffffff9 [0xddccbbaa],
    .write 0xfffffffe 4 0x99999999]

theorem actsAsByteMap_overlappingOperations :
    topMemory.bytes.size < indexLimit ∧
    (∀ place, (topMemory.afterAll overlappingOperations).byteAt? place =
      lastStored? topMemory overlappingOperations place) ∧
    lastStored? topMemory overlappingOperations 0xfffffffc = some 0xdd ∧
    lastStored? topMemory overlappingOperations 0xfffffffd = some 0x44 ∧
    lastStored? topMemory overlappingOperations 0xfffffffe = some 6 :=
  ⟨by decide, (actsAsByteMap_afterAll topMemory (by decide) overlappingOperations).last, by decide,
    by decide, by decide⟩

end DebugExpr
