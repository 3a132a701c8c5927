import DebugExpr.Proofs.ByteOrder
import DebugExpr.Proofs.ImageMemory
import DebugExpr.Proofs.RegisterUpdates

/-!
What building an image comes to. It fails only for a name of a register that is not present, and
reports the first such name in byte order. Otherwise each register has the value of the last name in
byte order that stands for it, and each segment has its words with zeros behind them.
-/

namespace DebugExpr

variable {size : WordSize}

def NamesPresent (embedded : Bool) (name : String) : Prop :=
  ∃ index, NamesRegister name index ∧ index < if embedded then 16 else 32

def RegisterError.Fits (name : String) : RegisterError → Prop
  | unknown told => told = name ∧ ∀ index, ¬ NamesRegister name index
  | unavailable told => told = name ∧ ∃ index, NamesRegister name index

namespace RegisterFile

theorem setNamed_of_run {registers written : RegisterFile size} {name : String} {value : Word size}
    (ran : (RegisterUpdate.writeNamed name value).run.run registers = (.ok (), written)) :
    registers.setNamed name value = .ok (registers.afterAll [.writeNamed name value]) := by
  have updated : registers.afterAll [.writeNamed name value] = written := by
    have second := congrArg Prod.snd ran
    exact second
  have reported : (RegisterUpdate.writeNamed name value).run registers = (.ok (), written) := ran
  rw [setNamed, reported, updated]

theorem setNamed_of_run_error {registers left : RegisterFile size} {name : String}
    {value : Word size} {error : RegisterError}
    (ran : (RegisterUpdate.writeNamed name value).run.run registers = (.error error, left)) :
    registers.setNamed name value = .error error := by
  have reported : (RegisterUpdate.writeNamed name value).run registers = (.error error, left) := ran
  rw [setNamed, reported]

theorem setNamed_cases (registers : RegisterFile size) (name : String) (value : Word size) :
    (NamesPresent registers.embedded name ∧
        registers.setNamed name value = .ok (registers.afterAll [.writeNamed name value])) ∨
      (¬ NamesPresent registers.embedded name ∧
        ∃ error : RegisterError, error.Fits name ∧
          registers.setNamed name value = .error error) := by
  by_cases known : ∃ index, NamesRegister name index
  · obtain ⟨index, named⟩ := known
    have ran := RegisterUpdate.run_writeNamed_of_names registers value named
    by_cases present : index < registers.count
    · rw [if_pos present] at ran
      exact .inl ⟨⟨index, named, present⟩, setNamed_of_run ran⟩
    · rw [if_neg present] at ran
      refine .inr ⟨?_, .unavailable name, ⟨rfl, index, named⟩, setNamed_of_run_error ran⟩
      rintro ⟨other, otherNamed, otherPresent⟩
      rw [otherNamed.unique named] at otherPresent
      exact present otherPresent
  · rw [not_exists] at known
    have ran := RegisterUpdate.run_writeNamed_of_unknown registers value known
    exact .inr ⟨fun ⟨index, named, _⟩ => known index named, .unknown name, ⟨rfl, known⟩,
      setNamed_of_run_error ran⟩

theorem successes_eq_self {registers : RegisterFile size}
    {operations : List (RegisterOperation size)}
    (all : ∀ operation ∈ operations, operation.pc?.isSome = true ∨
      ∃ index, operation.Addresses index ∧ index < registers.count) :
    registers.successes operations = operations := by
  induction operations generalizing registers with
  | nil => rfl
  | cons operation rest ih =>
      have succeeded := (operation.succeeds_iff registers).mpr (all operation (by simp))
      rw [successes, if_pos succeeded, ih]
      intro later member
      rw [count_congr (operation.embedded_run registers)]
      exact all later (by simp [member])

end RegisterFile

namespace MachineImage

def namedWrites (entries : List (String × Word size)) : List (RegisterOperation size) :=
  entries.map fun entry => .writeNamed entry.1 entry.2

theorem writeRegisters_cases (registers : RegisterFile size) (entries : List (String × Word size)) :
    ((∀ entry ∈ entries, NamesPresent registers.embedded entry.1) ∧
        writeRegisters registers entries = .ok (registers.afterAll (namedWrites entries))) ∨
      ∃ before entry after, entries = before ++ entry :: after ∧
        (∀ earlier ∈ before, NamesPresent registers.embedded earlier.1) ∧
          ¬ NamesPresent registers.embedded entry.1 ∧
        ∃ error : RegisterError, error.Fits entry.1 ∧
          writeRegisters registers entries = .error (.register error) := by
  induction entries generalizing registers with
  | nil => exact .inl ⟨by simp, rfl⟩
  | cons entry rest ih =>
      obtain ⟨name, value⟩ := entry
      rcases registers.setNamed_cases name value with ⟨present, written⟩
        | ⟨absent, error, fits, refused⟩
      · have mode : (registers.afterAll [.writeNamed name value]).embedded = registers.embedded :=
          RegisterFile.embedded_afterAll ..
        have later := ih (registers.afterAll [.writeNamed name value])
        rw [mode] at later
        rw [writeRegisters, written]
        rcases later with ⟨all, same⟩ | ⟨before, entry, after, rfl, earlier, absent,
          error, fits, same⟩
        · exact .inl ⟨List.forall_mem_cons.mpr ⟨present, all⟩, same⟩
        · exact .inr ⟨(name, value) :: before, entry, after, rfl,
            List.forall_mem_cons.mpr ⟨present, earlier⟩, absent, error, fits, same⟩
      · refine .inr ⟨[], (name, value), rest, rfl, by simp, absent, error, fits, ?_⟩
        rw [writeRegisters, refused]

theorem exists_laidOut {segments : List (SegmentImage size)}
    (countable : ∀ segment ∈ segments, segment.words.length * size.bytes < indexLimit) :
    ∃ memory, LaidOut segments memory ∧ segments.mapM SegmentImage.build = .ok memory := by
  have built : ∃ memory, segments.mapM SegmentImage.build = .ok memory := by
    induction segments with
    | nil => exact ⟨[], rfl⟩
    | cons segment rest ih =>
        obtain ⟨parts, others⟩ := ih fun later member => countable later (by simp [member])
        have first := SegmentImage.build_eq_ok_iff.mpr ⟨countable segment (by simp), rfl⟩
        exact ⟨_, by rw [List.mapM_cons, first, others]; rfl⟩
  obtain ⟨memory, same⟩ := built
  exact ⟨memory, laidOut_of_mapM same, same⟩

theorem mem_registers_iff (image : MachineImage size) (name : String) :
    name ∈ image.registers ↔ ∃ value, (name, value) ∈ image.registers.toList := by
  simp only [Std.TreeMap.mem_toList_iff_getElem?_eq_some, Std.TreeMap.mem_iff_isSome_getElem?,
    Option.isSome_iff_exists]

theorem pairwise_registers (image : MachineImage size) :
    image.registers.toList.Pairwise fun first second => Text.utf8Bytes first.1 <
      Text.utf8Bytes second.1 :=
  Std.TreeMap.ordered_keys_toList.imp fun ordered =>
    Text.utf8Bytes_lt (compare_lt_iff_lt.mp ordered)

theorem entry_cases {image : MachineImage size} {before after : List (String × Word size)}
    {name : String} {value : Word size}
    (entries : image.registers.toList = before ++ (name, value) :: after) {other : String}
    (listed : other ∈ image.registers) :
    (∃ otherValue, (other, otherValue) ∈ before ∧ Text.utf8Bytes other < Text.utf8Bytes name) ∨
      other = name ∨
      ∃ otherValue, (other, otherValue) ∈ after ∧ Text.utf8Bytes name < Text.utf8Bytes other := by
  obtain ⟨otherValue, entry⟩ := (image.mem_registers_iff other).mp listed
  have ordered := image.pairwise_registers
  rw [entries] at entry ordered
  rcases List.mem_append.mp entry with front | here
  · exact .inl ⟨otherValue, front,
      (List.pairwise_append.mp ordered).2.2 _ front _ List.mem_cons_self⟩
  · rcases List.mem_cons.mp here with same | behind
    · exact .inr (.inl (congrArg Prod.fst same))
    · exact .inr (.inr ⟨otherValue, behind,
        (List.pairwise_cons.mp (List.pairwise_append.mp ordered).2.1).1 _ behind⟩)

/-- The first name of an image in byte order that no register that is present has. -/
structure FirstAbsent (image : MachineImage size) (name : String) : Prop where
  listed : name ∈ image.registers
  absent : ¬ NamesPresent image.embedded name
  first : ∀ other ∈ image.registers, ¬ NamesPresent image.embedded other →
    other = name ∨ Text.utf8Bytes name < Text.utf8Bytes other

/-- The value that an image gives to a register: that of the last name in byte order that stands for
it, or zero. -/
def Gives (image : MachineImage size) (index : Nat) (value : Word size) : Prop :=
  (∃ name, image.registers[name]? = some value ∧ NamesRegister name index ∧
      ∀ other ∈ image.registers, NamesRegister other index →
        other = name ∨ Text.utf8Bytes other < Text.utf8Bytes name) ∨
    ((∀ name ∈ image.registers, ¬ NamesRegister name index) ∧ value = 0)

def operations (image : MachineImage size) : List (RegisterOperation size) :=
  .writePc image.pc :: namedWrites image.registers.toList

theorem build_cases (image : MachineImage size)
    (countable : ∀ segment ∈ image.memory, segment.words.length * size.bytes < indexLimit) :
    ((∀ name ∈ image.registers, NamesPresent image.embedded name) ∧
        ∃ memory, LaidOut image.segments memory ∧ image.build =
          .ok ⟨({ embedded := image.embedded } : RegisterFile size).afterAll image.operations,
            memory⟩) ∨
      ∃ (name : String) (error : RegisterError), image.FirstAbsent name ∧ error.Fits name ∧
        image.build = .error (.register error) := by
  let start : RegisterFile size := { embedded := image.embedded, pc := image.pc }
  rcases writeRegisters_cases start image.registers.toList with
    ⟨present, written⟩ | ⟨before, ⟨name, value⟩, after, entries, earlier, absent, error,
      fits, refused⟩
  · have segmentsCountable :
        ∀ segment ∈ image.segments, segment.words.length * size.bytes < indexLimit := by
      intro segment member
      unfold segments at member
      split at member
      · obtain rfl := List.mem_singleton.mp member
        simp [indexLimit]
      · exact countable segment member
    obtain ⟨memory, laidOut, laid⟩ := exists_laidOut segmentsCountable
    refine .inl ⟨?_, memory, laidOut, ?_⟩
    · intro name listed
      obtain ⟨value, entry⟩ := (image.mem_registers_iff name).mp listed
      exact present (name, value) entry
    · rw [build, written, buildMemory_eq, laid]
      rfl
  · refine .inr ⟨name, error, ⟨?_, absent, ?_⟩, fits, ?_⟩
    · exact (image.mem_registers_iff name).mpr ⟨value, by simp [entries]⟩
    · intro other listed otherAbsent
      -- All names in front of it are present, and those behind it are greater.
      rcases entry_cases entries listed with ⟨_, front, -⟩ | same | ⟨_, -, greater⟩
      · exact absurd (earlier _ front) otherAbsent
      · exact .inl same
      · exact .inr greater
    · rw [build, refused]
      rfl

theorem successes_operations {image : MachineImage size}
    (present : ∀ name ∈ image.registers, NamesPresent image.embedded name) :
    ({ embedded := image.embedded } : RegisterFile size).successes image.operations =
      image.operations := by
  apply RegisterFile.successes_eq_self
  intro operation member
  rcases List.mem_cons.mp member with rfl | later
  · exact .inl rfl
  · obtain ⟨⟨name, value⟩, entry, rfl⟩ := List.mem_map.mp later
    obtain ⟨index, named, bound⟩ := present name ((image.mem_registers_iff name).mpr ⟨value, entry⟩)
    exact .inr ⟨index, named, bound⟩

theorem lastPc?_operations (image : MachineImage size) :
    lastPc? image.operations = some image.pc := by
  have others : (namedWrites image.registers.toList).reverse.findSome? RegisterOperation.pc? =
      none := by
    apply List.findSome?_eq_none_iff.mpr
    intro operation member
    obtain ⟨entry, -, rfl⟩ := List.mem_map.mp (List.mem_reverse.mp member)
    rfl
  rw [lastPc?, operations, List.reverse_cons, List.findSome?_append, others, Option.none_or]
  rfl

theorem lastWritten?_operations (image : MachineImage size) (index : Nat) :
    lastWritten? image.operations index =
      (image.registers.toList.reverse.find? fun entry =>
        NamesRegister entry.1 index).map Prod.snd := by
  have other : [RegisterOperation.writePc image.pc].find? (·.Addresses index) = none := rfl
  rw [lastWritten?, operations, List.reverse_cons, List.find?_append, other, Option.or_none,
    namedWrites, ← List.map_reverse, List.find?_map, Option.map_map]
  rfl

theorem gives_lastWritten? (image : MachineImage size) (index : Nat) :
    image.Gives index ((lastWritten? image.operations index).getD 0) := by
  rw [lastWritten?_operations]
  cases found : image.registers.toList.reverse.find? fun entry => NamesRegister entry.1 index with
  | none =>
      refine .inr ⟨?_, rfl⟩
      intro name listed named
      obtain ⟨value, entry⟩ := (image.mem_registers_iff name).mp listed
      have unnamed := List.find?_eq_none.mp found (name, value) (List.mem_reverse.mpr entry)
      exact unnamed (decide_eq_true named)
  | some entry =>
      obtain ⟨name, value⟩ := entry
      obtain ⟨named, later, earlier, reversed, unnamed⟩ := List.find?_eq_some_iff_append.mp found
      have entries : image.registers.toList = earlier.reverse ++ (name, value) ::
          later.reverse := by
        rw [← List.reverse_reverse image.registers.toList, reversed]
        simp
      refine .inl ⟨name, ?_, of_decide_eq_true named, ?_⟩
      · rw [Option.map_some, Option.getD_some, ← Std.TreeMap.mem_toList_iff_getElem?_eq_some,
          entries]
        simp
      · intro other listed otherNamed
        -- The names in front of it are smaller, and none behind it stands for the register.
        rcases entry_cases entries listed with ⟨_, -, smaller⟩ | same | ⟨_, behind, -⟩
        · exact .inr smaller
        · exact .inl same
        · have elsewhere := unnamed _ (List.mem_reverse.mp behind)
          simp [otherNamed] at elsewhere

end MachineImage

namespace SegmentImage

def contents (segment : SegmentImage size) : List UInt8 :=
  (segment.words.flatMap fun word =>
      (List.range size.bytes).map fun place => UInt8.ofNat (word.toNat / 256 ^ place % 256)) ++
    List.replicate (max segment.length (segment.words.length * size.bytes) - segment.words.length *
      size.bytes) 0

structure Describes (segment : SegmentImage size) (part : PhysicalMemory size) : Prop where
  base : part.base = segment.base
  length : part.bytes.size = max segment.length (segment.words.length * size.bytes)
  bytes : part.bytes.toList = segment.contents

theorem describes_of_build {segment : SegmentImage size} {part : PhysicalMemory size}
    (built : segment.build = .ok part) :
    segment.Describes part where
  base := base_of_build built
  length := size_of_build built
  bytes := by
    rw [toList_bytes_of_build built, length_data, data, extent, contents]
    simp only [littleEndianBytes_eq]

end SegmentImage

namespace MachineImage

structure Describes (image : MachineImage size) (machine : Machine size) : Prop where
  mode : machine.registers.embedded = image.embedded
  pc : machine.registers.pc = image.pc
  zero : machine.registers.get? 0 = some 0
  register : ∀ index, 0 < index → (index < if image.embedded then 16 else 32) →
    ∃ value, machine.registers.get? index = some value ∧ image.Gives index value
  memory : List.Forall₂ SegmentImage.Describes image.segments machine.memory

theorem describes_afterAll {image : MachineImage size}
    (present : ∀ name ∈ image.registers, NamesPresent image.embedded name)
    {memory : SegmentedMemory size} (laidOut : LaidOut image.segments memory) :
    image.Describes ⟨({ embedded := image.embedded } : RegisterFile size).afterAll image.operations,
      memory⟩ where
  mode := RegisterFile.embedded_afterAll ..
  pc := by
    rw [RegisterFile.pc_afterAll, lastPc?_operations, Option.getD_some]
  zero := RegisterFile.get?_zero_afterAll ..
  register := by
    intro index positive bound
    refine ⟨_, ?_, image.gives_lastWritten? index⟩
    rw [RegisterFile.get?_afterAll image.embedded image.operations positive.ne' bound,
      successes_operations present]
  memory := laidOut.imp fun _ _ built => SegmentImage.describes_of_build built

/-- An image is built unless a name in it stands for no register that is present; then the first
such name in byte order is reported, as unknown or as not available. Otherwise the machine is as the
image describes it. The bytes of the words of a segment can be counted, as those of any list that
fits in memory. -/
theorem builds_unless_name_absent (image : MachineImage size)
    (countable : ∀ segment ∈ image.memory, segment.words.length * size.bytes < indexLimit) :
    ((∃ error, image.build = .error error) ↔
      ∃ name ∈ image.registers, ¬ NamesPresent image.embedded name) ∧
    (∀ error, image.build = .error error → ∃ (name : String) (reason : RegisterError),
      image.FirstAbsent name ∧ reason.Fits name ∧ error = .register reason) ∧
    (∀ base error, image.build ≠ .error (.memory base error)) ∧
    ∀ machine, image.build = .ok machine → image.Describes machine := by
  rcases image.build_cases countable with ⟨present, memory, laidOut, built⟩
    | ⟨name, reason, first, fits, failed⟩
  · simp only [built]
    refine ⟨iff_of_false (by simp) ?_, by simp, by simp, ?_⟩
    · rintro ⟨name, listed, absent⟩
      exact absent (present name listed)
    · rintro machine same
      obtain rfl := Except.ok.inj same
      exact describes_afterAll present laidOut
  · simp only [failed]
    refine ⟨iff_of_true ⟨_, rfl⟩ ⟨name, first.listed, first.absent⟩, ?_, by simp, by simp⟩
    rintro error same
    exact ⟨name, reason, first, fits, (Except.error.inj same).symm⟩

def aliasedImage : MachineImage .bits32 where
  pc := 0x80000000
  registers := Std.TreeMap.ofList [("t0", (9 : Word .bits32)), ("$t0", 7), ("$0", 5)]
  memory := [{ base := 0xfffffffc, length := 2, words := [0x44332211] }]

def absentImage : MachineImage .bits32 where
  embedded := true
  registers := Std.TreeMap.ofList [("a0", (3 : Word .bits32)), ("x99", 1), ("$s11", 2)]

theorem builds_aliasedImage_not_absentImage :
    (∀ segment ∈ aliasedImage.memory, segment.words.length * 4 < indexLimit) ∧
      (∃ machine, aliasedImage.build = .ok machine ∧ aliasedImage.Describes machine ∧
        machine.registers.get? 5 = some 9 ∧ machine.registers.get? 0 = some 0) ∧
      (∀ segment ∈ absentImage.memory, segment.words.length * 4 < indexLimit) ∧
      absentImage.build = .error (.register (.unavailable "$s11")) ∧
        absentImage.FirstAbsent "$s11" := by
  have countable : ∀ segment ∈ aliasedImage.memory, segment.words.length * 4 < indexLimit := by
    decide
  have noSegments : ∀ segment ∈ absentImage.memory, segment.words.length * 4 < indexLimit := by
    decide
  have failed : absentImage.build = .error (.register (.unavailable "$s11")) := by cbv
  refine ⟨countable, ⟨_, rfl, (builds_unless_name_absent aliasedImage countable).2.2.2 _ rfl, rfl,
    rfl⟩, noSegments, failed, ?_⟩
  obtain ⟨name, reason, first, fits, same⟩ :=
    (builds_unless_name_absent absentImage noSegments).2.1 _ failed
  cases same
  obtain ⟨rfl, -⟩ := fits
  exact first

end MachineImage

end DebugExpr
