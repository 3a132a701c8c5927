import DebugExpr.Proofs.ImageMemory

/-!
Reads from segments that do not overlap. At most one of them has all bytes of a read, so that it
does not matter in which order they are asked.
-/

namespace DebugExpr

variable {size : WordSize}

namespace PhysicalMemory

def places (memory : PhysicalMemory size) : Set Nat :=
  Set.Ico memory.base.toNat (memory.base.toNat + memory.bytes.size)

instance (first second : PhysicalMemory size) : Decidable (Disjoint first.places second.places) :=
  decidable_of_iff _ Set.Ico_disjoint_Ico.symm

end PhysicalMemory

def readPlaces (address : Word size) (width : Nat) : Set Nat :=
  Set.Ico address.toNat (address.toNat + width)

theorem WidthSupported.pos {width : Nat} (supported : WidthSupported size width) : 0 < width := by
  have listed := supported.1
  simp only [List.mem_cons, List.not_mem_nil, or_false] at listed
  omega

theorem PhysicalMemory.readPlaces_subset_iff (memory : PhysicalMemory size) (address : Word size)
    {width : Nat} (positive : 0 < width) : readPlaces address width ⊆ memory.places ↔
    memory.Maps address width := by
  rw [readPlaces, places, Set.Ico_subset_Ico_iff (by omega), Maps]
  omega

namespace SegmentedMemory

variable {segments : SegmentedMemory size} {address : Word size} {width : Nat}

theorem read_cases (fits : ∀ segment ∈ segments, segment.bytes.size < indexLimit)
    (supported : WidthSupported size width) :
    (∃ segment ∈ segments, segment.Maps address width ∧
      segments.read address width = segment.read address width) ∨
      ((∀ segment ∈ segments, ¬ segment.Maps address width) ∧
        segments.read address width = .error (.outOfBounds address.toNat width)) := by
  induction segments with
  | nil => exact .inr ⟨by simp, rfl⟩
  | cons first rest ih =>
      by_cases mapped : first.Maps address width
      · refine .inl ⟨first, by simp, mapped, ?_⟩
        rw [SegmentedMemory.read, first.read_eq (fits first (by simp)), if_pos supported,
          if_pos mapped]
      · rw [read_cons_of_not_maps supported mapped]
        rcases ih fun segment member => fits segment (by simp [member]) with ⟨segment, member,
          found, same⟩ | ⟨absent, same⟩
        · exact .inl ⟨segment, by simp [member], found, same⟩
        · exact .inr ⟨by simpa using ⟨mapped, absent⟩, same⟩

theorem read_of_not_supported (present : segments ≠ [])
    (unsupported : ¬ WidthSupported size width) :
    segments.read address width = .error (.unsupportedWidth width) := by
  obtain ⟨first, rest, rfl⟩ := List.exists_cons_of_ne_nil present
  have refused : first.read address width = .error (.unsupportedWidth width) := by
    rw [PhysicalMemory.read, PhysicalMemory.checkWidth_eq, if_neg unsupported]
    rfl
  rw [SegmentedMemory.read, refused]

def Apart (segments : SegmentedMemory size) : Prop :=
  segments.Pairwise fun first second => Disjoint first.places second.places

instance (segments : SegmentedMemory size) : Decidable segments.Apart :=
  inferInstanceAs (Decidable (List.Pairwise _ _))

theorem Apart.eq_of_maps (apart : segments.Apart) (positive : 0 < width)
    {first second : PhysicalMemory size} (member : first ∈ segments)
    (otherMember : second ∈ segments) (mapped : first.Maps address width)
    (otherMapped : second.Maps address width) : first = second := by
  by_contra different
  have symmetric : Std.Symm fun first second : PhysicalMemory size =>
      Disjoint first.places second.places :=
    ⟨fun _ _ disjoint => disjoint.symm⟩
  have disjoint := List.Pairwise.forall apart member otherMember different
  rw [← PhysicalMemory.readPlaces_subset_iff _ _ positive] at mapped otherMapped
  -- The first byte of the read is mapped by both.
  have within : address.toNat ∈ readPlaces address width :=
    ⟨Nat.le_refl _, Nat.lt_add_of_pos_right positive⟩
  exact Set.disjoint_left.mp disjoint (mapped within) (otherMapped within)

theorem Apart.read_eq (apart : segments.Apart)
    (fits : ∀ segment ∈ segments, segment.bytes.size < indexLimit)
    (supported : WidthSupported size width) {segment : PhysicalMemory size}
    (member : segment ∈ segments) (mapped : segment.Maps address width) :
    segments.read address width = segment.read address width := by
  rcases read_cases fits supported with ⟨other, otherMember, otherMapped, same⟩ | ⟨absent, -⟩
  · rw [same, apart.eq_of_maps supported.pos otherMember member otherMapped mapped]
  · exact absurd mapped (absent segment member)

theorem Apart.read_perm (apart : segments.Apart)
    (fits : ∀ segment ∈ segments, segment.bytes.size < indexLimit) (present : segments ≠ [])
    {other : SegmentedMemory size} (reordered : segments.Perm other) :
    other.read address width = segments.read address width := by
  have otherFits (segment : PhysicalMemory size) (member : segment ∈ other) :
      segment.bytes.size < indexLimit :=
    fits segment (reordered.mem_iff.mpr member)
  by_cases supported : WidthSupported size width
  · rcases read_cases otherFits supported with ⟨segment, member, mapped, same⟩ | ⟨absent, same⟩
    · rw [same, apart.read_eq fits supported (reordered.mem_iff.mpr member) mapped]
    · rcases read_cases fits supported with ⟨segment, member, mapped, -⟩ | ⟨-, sameHere⟩
      · exact absurd mapped (absent segment (reordered.mem_iff.mp member))
      · rw [same, sameHere]
  · have otherPresent : other ≠ [] := by
      rintro rfl
      exact present reordered.eq_nil
    rw [read_of_not_supported present supported, read_of_not_supported otherPresent supported]

end SegmentedMemory

/-- What a read from several segments comes to, told without their order. -/
structure ReadsInAnyOrder (segments : SegmentedMemory size) (address : Word size) (width : Nat) :
    Prop where
  reordered : ∀ other : SegmentedMemory size, segments.Perm other →
    other.read address width = segments.read address width
  succeeds : (∃ value, segments.read address width = .ok value) ↔
    WidthSupported size width ∧ ∃ segment ∈ segments, readPlaces address width ⊆ segment.places
  value : ∀ segment ∈ segments, readPlaces address width ⊆ segment.places →
    ∀ value, segments.read address width = .ok value → ∃ bytes : Nat → UInt8,
      (∀ place < width, segment.byteAt? (address.toNat + place) = some (bytes place)) ∧
        value.toNat = ∑ place ∈ Finset.range width, (bytes place).toNat * 256 ^ place
  outside : WidthSupported size width →
    (∀ segment ∈ segments, ¬ readPlaces address width ⊆ segment.places) →
    segments.read address width = .error (.outOfBounds address.toNat width)
  unsupported : ¬ WidthSupported size width →
    segments.read address width = .error (.unsupportedWidth width)

/-- Segments that do not overlap are read as one memory: whatever their order, a read is served by
the segment that has all of its bytes, and refused if there is none, even if two segments side by
side have them. The bytes of a segment can be counted, as those of any that fits in memory. -/
theorem SegmentedMemory.readsInAnyOrder {segments : SegmentedMemory size} (present : segments ≠ [])
    (fits : ∀ segment ∈ segments, segment.bytes.size < indexLimit) (apart : segments.Apart)
    (address : Word size) (width : Nat) : ReadsInAnyOrder segments address width where
  reordered := fun _ reordered => apart.read_perm fits present reordered
  succeeds := by
    constructor
    · rintro ⟨value, found⟩
      by_cases supported : WidthSupported size width
      · rcases read_cases fits supported with ⟨segment, member, mapped, -⟩ | ⟨-, refused⟩
        · exact ⟨supported, segment, member,
            (segment.readPlaces_subset_iff address supported.pos).mpr mapped⟩
        · rw [refused] at found
          contradiction
      · rw [read_of_not_supported present supported] at found
        contradiction
    · rintro ⟨supported, segment, member, within⟩
      rw [segment.readPlaces_subset_iff address supported.pos] at within
      rw [apart.read_eq fits supported member within, segment.read_eq (fits segment member),
        if_pos supported, if_pos within]
      exact ⟨_, rfl⟩
  value := by
    intro segment member within value found
    by_cases supported : WidthSupported size width
    · rw [segment.readPlaces_subset_iff address supported.pos] at within
      rw [apart.read_eq fits supported member within] at found
      exact PhysicalMemory.toNat_of_read (fits segment member) found
    · rw [read_of_not_supported present supported] at found
      contradiction
  outside := by
    intro supported absent
    rcases read_cases fits supported with ⟨segment, member, mapped, -⟩ | ⟨-, refused⟩
    · exact absurd ((segment.readPlaces_subset_iff address supported.pos).mpr mapped)
        (absent segment member)
    · exact refused
  unsupported := read_of_not_supported present

def adjacentSegments : SegmentedMemory .bits32 :=
  [⟨0xfffffff8, #[1, 2, 3, 4]⟩, ⟨0xfffffffc, #[5, 6, 7, 8]⟩, ⟨0xfffffffa, #[]⟩]

theorem readsInAnyOrder_adjacentSegments :
    adjacentSegments ≠ [] ∧ (∀ segment ∈ adjacentSegments, segment.bytes.size < indexLimit) ∧
      adjacentSegments.Apart ∧
      SegmentedMemory.read adjacentSegments.reverse 0xfffffffc 4 =
        adjacentSegments.read 0xfffffffc 4 ∧
      adjacentSegments.read 0xfffffffc 4 = .ok 0x08070605 ∧
      adjacentSegments.read 0xfffffffa 4 = .error (.outOfBounds 0xfffffffa 4) ∧
      adjacentSegments.read 0 3 = .error (.unsupportedWidth 3) := by
  have present : adjacentSegments ≠ [] := by decide
  have fits : ∀ segment ∈ adjacentSegments, segment.bytes.size < indexLimit := by decide
  have apart : adjacentSegments.Apart := by decide
  have reads (address : Word .bits32) (width : Nat) :=
    SegmentedMemory.readsInAnyOrder present fits apart address width
  exact ⟨present, fits, apart, (reads _ _).reordered _ (List.reverse_perm _).symm,
    by decide, by decide, (reads 0 3).unsupported (by decide)⟩

end DebugExpr
