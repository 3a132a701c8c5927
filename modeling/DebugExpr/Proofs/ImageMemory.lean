import DebugExpr.Machine.Image
import DebugExpr.Proofs.MemoryUpdates

/-!
The memory that an image lays out. Each word of a segment can be read back at its address, unless
the address lies past the end of the address space or all bytes of the word are mapped by an earlier
segment, which then answers in its place.
-/

namespace DebugExpr

theorem littleEndianValue_littleEndianBytes (width value : Nat) :
    littleEndianValue (littleEndianBytes width value) = value % 256 ^ width := by
  induction width generalizing value with
  | zero => simp [littleEndianBytes, littleEndianValue, Nat.mod_one]
  | succ width ih =>
      have small : value % 256 < 256 := Nat.mod_lt _ (by decide)
      rw [littleEndianBytes, littleEndianValue, ih, UInt8.toNat_ofNat_of_lt' (by simpa using small),
        Nat.pow_succ', Nat.mod_mul]

theorem take_drop_flatMap_of_length {α β : Type} {length : Nat} {pieces : α → List β}
    (lengths : ∀ item, (pieces item).length = length) {items : List α} {index : Nat} {item : α}
    (found : items[index]? = some item) :
    ((items.flatMap pieces).drop (index * length)).take length = pieces item := by
  induction items generalizing index with
  | nil => simp at found
  | cons first rest ih =>
      rw [List.flatMap_cons]
      cases index with
      | zero =>
          obtain rfl : first = item := by simpa using found
          rw [Nat.zero_mul, List.drop_zero, ← lengths first, List.take_left]
      | succ index =>
          have passed : (index + 1) * length = (pieces first).length + index * length := by
            rw [lengths, Nat.succ_mul, Nat.add_comm]
          rw [passed, List.drop_length_add_append]
          exact ih (by simpa using found)

variable {size : WordSize}

namespace PhysicalMemory

theorem toList_overwrite {bytes : Array UInt8} {data : List UInt8}
    (inside : data.length ≤ bytes.size) :
    (overwrite bytes 0 data).toList = data ++ bytes.toList.drop data.length := by
  apply List.ext_getElem?
  intro place
  rw [Array.getElem?_toList, getElem?_overwrite (by omega)]
  by_cases early : place < data.length
  · rw [if_pos (by omega), List.getElem?_append_left early, Nat.sub_zero]
  · have later : data.length + (place - data.length) = place := by omega
    rw [if_neg (by omega), List.getElem?_append_right (by omega), List.getElem?_drop, later,
      Array.getElem?_toList]

theorem load_eq (memory : PhysicalMemory size) (address : Word size) (data : List UInt8) :
    memory.load address data =
      match memory.offset? address data.length with
      | some start => .ok (memory.put start data)
      | none => .error (.outOfBounds address.toNat data.length) := by
  unfold load updated MemoryUpdate.load
  rw [MemoryUpdate.run_get, MemoryUpdate.run_check, offset]
  cases memory.offset? address data.length <;> rfl

theorem read_of_not_maps {memory : PhysicalMemory size} {address : Word size} {width : Nat}
    (supported : WidthSupported size width) (outside : ¬ memory.Maps address width) :
    memory.read address width = .error (.outOfBounds address.toNat width) := by
  have absent : memory.offset? address width = none := by
    rw [Option.eq_none_iff_forall_ne_some]
    intro start found
    exact outside ((offset?_eq_some_iff_of_limit ..).mp found).1
  rw [read, checkWidth_eq, if_pos supported, offset, absent]
  rfl

theorem read_of_maps {memory : PhysicalMemory size} {address : Word size} {width : Nat}
    (supported : WidthSupported size width) (mapped : memory.Maps address width)
    (limited : address.toNat - memory.base.toNat + width < indexLimit) :
    memory.read address width = .ok (BitVec.ofNat size.bits (littleEndianValue
      ((memory.bytes.toList.drop (address.toNat - memory.base.toNat)).take width))) := by
  have found : memory.offset? address width = some (address.toNat - memory.base.toNat) :=
    (offset?_eq_some_iff_of_limit ..).mpr ⟨mapped, rfl, limited⟩
  rw [read, checkWidth_eq, if_pos supported, offset, found]
  simp [bind, Except.bind, pure, Except.pure]

end PhysicalMemory

theorem SegmentedMemory.read_cons_of_not_maps {segment : PhysicalMemory size} {address : Word size}
    {width : Nat} (supported : WidthSupported size width) (outside : ¬ segment.Maps address width)
    (rest : SegmentedMemory size) :
    SegmentedMemory.read (segment :: rest) address width = rest.read address width := by
  rw [SegmentedMemory.read, PhysicalMemory.read_of_not_maps supported outside]

theorem widthSupported_bytes (size : WordSize) : WidthSupported size size.bytes := by
  cases size <;> decide

namespace SegmentImage

def extent (segment : SegmentImage size) : Nat :=
  max segment.length (segment.words.length * size.bytes)

def Covers (segment : SegmentImage size) (address : Word size) (width : Nat) : Prop :=
  segment.base.toNat ≤ address.toNat ∧ address.toNat + width ≤ segment.base.toNat + segment.extent

instance (segment : SegmentImage size) (address : Word size) (width : Nat) :
    Decidable (segment.Covers address width) :=
  inferInstanceAs (Decidable (_ ∧ _))

def data (segment : SegmentImage size) : List UInt8 :=
  segment.words.flatMap fun word => littleEndianBytes size.bytes word.toNat

theorem length_data (segment : SegmentImage size) :
    segment.data.length = segment.words.length * size.bytes := by
  simp [data, length_littleEndianBytes, List.length_flatMap]

theorem build_eq_ok_iff {segment : SegmentImage size} {memory : PhysicalMemory size} :
    segment.build = .ok memory ↔ segment.words.length * size.bytes < indexLimit ∧
      memory = (PhysicalMemory.zeroed segment.base segment.extent).put 0 segment.data := by
  have offset (start : Nat) :
      (PhysicalMemory.zeroed segment.base segment.extent).offset? segment.base segment.data.length =
        some start ↔
        start = 0 ∧ segment.words.length * size.bytes < indexLimit := by
    rw [PhysicalMemory.offset?_eq_some_iff_of_limit, length_data]
    have inside : segment.words.length * size.bytes ≤ segment.extent := Nat.le_max_right ..
    simp only [PhysicalMemory.Maps, PhysicalMemory.zeroed, Array.size_replicate]
    omega
  have loaded : (PhysicalMemory.zeroed segment.base
        (max segment.length (segment.words.length * size.bytes))).loadWords
          segment.base segment.words =
      (PhysicalMemory.zeroed segment.base segment.extent).load segment.base segment.data := rfl
  rw [build, loaded, PhysicalMemory.load_eq]
  cases found : (PhysicalMemory.zeroed segment.base segment.extent).offset?
      segment.base segment.data.length with
  | none =>
      have unlimited : ¬ segment.words.length * size.bytes < indexLimit := by
        intro limited
        rw [(offset 0).mpr ⟨rfl, limited⟩] at found
        contradiction
      simp [unlimited]
  | some start =>
      obtain ⟨rfl, limited⟩ := (offset start).mp found
      simp [limited, eq_comm]

section Built

variable {segment : SegmentImage size} {memory : PhysicalMemory size}
  (built : segment.build = .ok memory)
include built

theorem base_of_build : memory.base = segment.base := by
  obtain ⟨_, rfl⟩ := build_eq_ok_iff.mp built
  rfl

theorem size_of_build : memory.bytes.size = segment.extent := by
  obtain ⟨_, rfl⟩ := build_eq_ok_iff.mp built
  rw [PhysicalMemory.size_put, PhysicalMemory.zeroed, Array.size_replicate]

theorem maps_iff_covers (address : Word size) (width : Nat) :
    memory.Maps address width ↔ segment.Covers address width := by
  rw [PhysicalMemory.Maps, Covers, base_of_build built, size_of_build built]
  omega

theorem toList_bytes_of_build :
    memory.bytes.toList = segment.data ++
      List.replicate (segment.extent - segment.data.length) 0 := by
  obtain ⟨_, rfl⟩ := build_eq_ok_iff.mp built
  have inside : segment.data.length ≤ segment.extent := by
    rw [length_data]
    exact Nat.le_max_right ..
  rw [PhysicalMemory.put,
    PhysicalMemory.toList_overwrite (by simpa [PhysicalMemory.zeroed] using inside),
    PhysicalMemory.zeroed]
  simp

theorem read_word_of_build {index : Nat} {word : Word size}
    (stored : segment.words[index]? = some word) {address : Word size}
    (placed : address.toNat = segment.base.toNat + index * size.bytes) :
    memory.read address size.bytes = .ok word := by
  have limited := (build_eq_ok_iff.mp built).1
  obtain ⟨before, _⟩ := List.getElem?_eq_some_iff.mp stored
  have last : index * size.bytes + size.bytes ≤ segment.words.length * size.bytes := by
    rw [← Nat.succ_mul]
    exact Nat.mul_le_mul_right _ before
  have covered : segment.Covers address size.bytes := by
    have inside : segment.words.length * size.bytes ≤ segment.extent := Nat.le_max_right ..
    rw [Covers]
    omega
  have distance : address.toNat - memory.base.toNat = index * size.bytes := by
    rw [base_of_build built]
    omega
  rw [PhysicalMemory.read_of_maps (widthSupported_bytes size)
    ((maps_iff_covers built ..).mpr covered) (by omega), distance, toList_bytes_of_build built,
    List.drop_append_of_le_length (by rw [length_data]; omega),
    List.take_append_of_le_length (by rw [List.length_drop, length_data]; omega), data,
    take_drop_flatMap_of_length (fun word => length_littleEndianBytes ..) stored,
    littleEndianValue_littleEndianBytes]
  apply congrArg Except.ok
  apply BitVec.eq_of_toNat_eq
  have wide : 256 ^ size.bytes = 2 ^ size.bits := by
    rw [size.bits_eq_bytes_mul_eight, Nat.pow_mul]
  rw [BitVec.toNat_ofNat, wide, Nat.mod_mod, Nat.mod_eq_of_lt word.isLt]

end Built

end SegmentImage

abbrev LaidOut (segments : List (SegmentImage size)) (memory : SegmentedMemory size) : Prop :=
  List.Forall₂ (fun segment part => segment.build = .ok part) segments memory

theorem laidOut_of_mapM {segments : List (SegmentImage size)} {memory : SegmentedMemory size}
    (built : segments.mapM SegmentImage.build = .ok memory) : LaidOut segments memory := by
  induction segments generalizing memory with
  | nil =>
      cases built
      exact .nil
  | cons segment rest ih =>
      rw [List.mapM_cons] at built
      cases first : segment.build with
      | error error => simp [first, bind, Except.bind] at built
      | ok part =>
          cases others : rest.mapM SegmentImage.build with
          | error error => simp [first, others, bind, Except.bind] at built
          | ok parts =>
              simp only [first, others, bind, Except.bind, pure, Except.pure,
                Except.ok.injEq] at built
              subst built
              exact .cons first (ih others)

namespace LaidOut

variable {segments : List (SegmentImage size)} {memory : SegmentedMemory size} {address : Word size}
  {width : Nat}

theorem exists_part (laidOut : LaidOut segments memory) {place : Nat} {segment : SegmentImage size}
    (listed : segments[place]? = some segment) : ∃ part, segment.build = .ok part := by
  induction laidOut generalizing place with
  | nil => simp at listed
  | @cons first firstPart rest parts firstBuilt _ ih =>
      cases place with
      | zero =>
          obtain rfl : first = segment := by simpa using listed
          exact ⟨firstPart, firstBuilt⟩
      | succ place => exact ih (by simpa using listed)

theorem read_eq_of_covers (laidOut : LaidOut segments memory)
    (supported : WidthSupported size width) {place : Nat} {segment : SegmentImage size}
    (listed : segments[place]? = some segment)
    (visible : ∀ earlier ∈ segments.take place, ¬ earlier.Covers address width)
    {part : PhysicalMemory size} (built : segment.build = .ok part) {value : Word size}
    (served : part.read address width = .ok value) :
    memory.read address width = .ok value := by
  induction laidOut generalizing place with
  | nil => simp at listed
  | @cons first firstPart rest parts firstBuilt _ ih =>
      cases place with
      | zero =>
          obtain rfl : first = segment := by simpa using listed
          obtain rfl : firstPart = part := by simpa [firstBuilt] using built
          rw [SegmentedMemory.read, served]
      | succ place =>
          have passed : ¬ firstPart.Maps address width := by
            rw [SegmentImage.maps_iff_covers firstBuilt]
            exact visible first (by simp)
          rw [SegmentedMemory.read_cons_of_not_maps supported passed]
          exact ih (by simpa using listed) fun earlier member => visible earlier (by simp [member])

theorem read_eq_outOfBounds (laidOut : LaidOut segments memory)
    (supported : WidthSupported size width)
    (uncovered : ∀ segment ∈ segments, ¬ segment.Covers address width) :
    memory.read address width = .error (.outOfBounds address.toNat width) := by
  induction laidOut with
  | nil => rfl
  | @cons first firstPart rest parts firstBuilt _ ih =>
      have passed : ¬ firstPart.Maps address width := by
        rw [SegmentImage.maps_iff_covers firstBuilt]
        exact uncovered first (by simp)
      rw [SegmentedMemory.read_cons_of_not_maps supported passed]
      exact ih fun segment member => uncovered segment (by simp [member])

end LaidOut

namespace MachineImage

def segments (image : MachineImage size) : List (SegmentImage size) :=
  if image.memory = [] then
    [{ base := PhysicalMemory.defaultBase, length := defaultSegmentLength }]
  else
    image.memory

theorem buildMemory_eq (image : MachineImage size) :
    image.buildMemory = image.segments.mapM SegmentImage.build := by
  unfold buildMemory segments
  by_cases empty : image.memory = []
  · let segment : SegmentImage size :=
      { base := PhysicalMemory.defaultBase, length := defaultSegmentLength }
    have extent : segment.extent = defaultSegmentLength := by simp [segment, SegmentImage.extent]
    have built :
        segment.build =
        .ok (PhysicalMemory.zeroed PhysicalMemory.defaultBase defaultSegmentLength) := by
      refine SegmentImage.build_eq_ok_iff.mpr ⟨by simp [segment, indexLimit], ?_⟩
      rw [extent]
      rfl
    rw [if_pos empty, empty, List.mapM_cons, built]
    rfl
  · rw [if_neg empty, if_neg (by simpa using empty)]

theorem laidOut_of_build {image : MachineImage size} {machine : Machine size}
    (built : image.build = .ok machine) : LaidOut image.segments machine.memory := by
  apply laidOut_of_mapM
  rw [← buildMemory_eq]
  unfold build at built
  simp only [bind, Except.bind] at built
  split at built
  · contradiction
  · split at built
    · contradiction
    · rename_i parts found
      cases built
      exact found

/-- A read is answered by the first of the segments that covers its bytes, as that segment alone
would answer it. Where none does, nothing is mapped. -/
theorem read_of_build {image : MachineImage size} {machine : Machine size}
    (built : image.build = .ok machine) {address : Word size} {width : Nat}
    (supported : WidthSupported size width) :
    (∀ (place : Nat) (segment : SegmentImage size) (part : PhysicalMemory size) (value : Word size),
      image.segments[place]? = some segment → segment.build = .ok part →
        (∀ earlier ∈ image.segments.take place, ¬ earlier.Covers address width) →
          part.read address width = .ok value → machine.memory.read address width = .ok value) ∧
    ((∀ segment ∈ image.segments, ¬ segment.Covers address width) →
      machine.memory.read address width = .error (.outOfBounds address.toNat width)) := by
  have laidOut := laidOut_of_build built
  constructor
  · intro place segment part value listed segmentBuilt visible served
    exact laidOut.read_eq_of_covers supported listed visible segmentBuilt served
  · intro uncovered
    exact laidOut.read_eq_outOfBounds supported uncovered

end MachineImage

namespace SegmentImage

def wordAddress (segment : SegmentImage size) (index : Nat) : Word size :=
  segment.base + BitVec.ofNat size.bits (index * size.bytes)

theorem toNat_wordAddress (segment : SegmentImage size) {index : Nat}
    (inside : segment.base.toNat + index * size.bytes < size.limit) :
    (segment.wordAddress index).toNat = segment.base.toNat + index * size.bytes := by
  rw [wordAddress, BitVec.toNat_add, BitVec.toNat_ofNat, Nat.add_mod_mod]
  exact Nat.mod_eq_of_lt inside

end SegmentImage

/-- Every word of an image that builds can be read back at its address, unless the address wraps
around or an earlier segment covers the word. -/
theorem read_wordAddress_of_build (image : MachineImage size) {machine : Machine size}
    (built : image.build = .ok machine) (place : Nat) (segment : SegmentImage size) (index : Nat)
    (word : Word size) (listed : image.memory[place]? = some segment)
    (stored : segment.words[index]? = some word)
    (inside : segment.base.toNat + index * size.bytes < size.limit)
    (visible : ∀ earlier ∈ image.memory.take place,
      ¬ earlier.Covers (segment.wordAddress index) size.bytes) :
    machine.memory.read (segment.wordAddress index) size.bytes = .ok word := by
  have described : image.memory ≠ [] := by
    intro empty
    simp [empty] at listed
  have segments : image.segments = image.memory := if_neg described
  rw [← segments] at listed visible
  obtain ⟨part, segmentBuilt⟩ := (MachineImage.laidOut_of_build built).exists_part listed
  have served :=
    SegmentImage.read_word_of_build segmentBuilt stored (segment.toNat_wordAddress inside)
  exact (MachineImage.read_of_build built (widthSupported_bytes size)).1 place segment part word
    listed segmentBuilt visible served

/-- The second segment starts inside of the first one, which hides its first word and not its second
one. -/
def overlappingImage : MachineImage .bits32 where
  memory := [{ base := 0, length := 8, words := [7] }, { base := 4, words := [9, 11] }]

theorem exists_machine_of_overlappingImage :
    ∃ machine, overlappingImage.build = .ok machine ∧ machine.memory.read 4 4 = .ok 0 := by
  refine ⟨_, rfl, ?_⟩
  decide

theorem read_second_word_of_overlappingImage :
    ∃ machine, overlappingImage.build = .ok machine ∧
      (∀ earlier ∈ overlappingImage.memory.take 1, ¬ earlier.Covers 8 4) ∧
        machine.memory.read 8 4 = .ok 11 := by
  obtain ⟨machine, built, _⟩ := exists_machine_of_overlappingImage
  have visible : ∀ earlier ∈ overlappingImage.memory.take 1, ¬ earlier.Covers 8 4 := by decide
  exact ⟨machine, built, visible,
    read_wordAddress_of_build overlappingImage built 1 _ 1 11 rfl rfl (by decide) visible⟩

def topImage : MachineImage .bits32 where
  memory := [{ base := 0xfffffffc, words := [1, 2] }]

/-- Neither may an earlier segment cover a word that is to be read back, nor may the address of the
word wrap around. -/
theorem not_read_wordAddress_of_hidden_or_wrapped :
    (¬ ∀ (image : MachineImage .bits32) (machine : Machine .bits32), image.build = .ok machine →
      ∀ (place : Nat) (segment : SegmentImage .bits32) (index : Nat) (word : Word .bits32),
        image.memory[place]? = some segment → segment.words[index]? = some word →
          segment.base.toNat + index * 4 < WordSize.bits32.limit →
            machine.memory.read (segment.wordAddress index) 4 = .ok word) ∧
    (¬ ∀ (image : MachineImage .bits32) (machine : Machine .bits32), image.build = .ok machine →
      ∀ (place : Nat) (segment : SegmentImage .bits32) (index : Nat) (word : Word .bits32),
        image.memory[place]? = some segment → segment.words[index]? = some word →
          (∀ earlier ∈ image.memory.take place, ¬ earlier.Covers (segment.wordAddress index) 4) →
            machine.memory.read (segment.wordAddress index) 4 = .ok word) := by
  constructor
  · intro readable
    obtain ⟨machine, built, hidden⟩ := exists_machine_of_overlappingImage
    have found : machine.memory.read 4 4 = .ok 9 :=
      readable overlappingImage machine built 1 _ 0 9 rfl rfl (by decide)
    rw [hidden] at found
    exact absurd found (by decide)
  · intro readable
    have wrapped : ∃ machine, topImage.build = .ok machine ∧
        machine.memory.read 0 4 = .error (.outOfBounds 0 4) := by
      refine ⟨_, rfl, ?_⟩
      decide
    obtain ⟨machine, built, outside⟩ := wrapped
    have found : machine.memory.read 0 4 = .ok 2 :=
      readable topImage machine built 0 _ 1 2 rfl rfl (by simp)
    rw [outside] at found
    exact absurd found (by decide)

end DebugExpr
