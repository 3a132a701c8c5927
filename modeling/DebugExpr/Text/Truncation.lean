import DebugExpr.Text.Bytes

/-!
Texts cut to a limit of bytes. A text may be cut between two characters only, so that the place is
looked for from the limit backwards. The search ends within the text, and at a place where the text
can be cut.
-/

namespace DebugExpr.Text

def isContinuation (byte : UInt8) : Bool :=
  decide (0x80 ≤ byte.toNat ∧ byte.toNat < 0xC0)

def isBoundary (value : String) (offset : Nat) : Bool :=
  offset == 0 ||
    if inside : (⟨offset⟩ : String.Pos.Raw) < value.rawEndPos then
      !isContinuation (value.getUTF8Byte ⟨offset⟩ inside)
    else
      offset == value.utf8ByteSize

def boundaryFrom? (value : String) (offset : Nat) : Option Nat :=
  if isBoundary value offset then
    some offset
  else
    match offset with
    | 0 => none
    | previous + 1 => boundaryFrom? value previous

def before? (value : String) (offset : Nat) : Option String :=
  (splitAtByte? offset value.toList).map fun (before, _) => String.ofList before

/-- A text that takes at most `limit` bytes as it is, and a longer one up to the last boundary
within the limit; none when there is no such boundary or the text cannot be cut there. -/
def truncate? (limit : Nat) (value : String) : Option String :=
  if value.utf8ByteSize ≤ limit then
    some value
  else
    (boundaryFrom? value limit).bind (before? value)

theorem isContinuation_ofNat {number : Nat} (small : number < 256) :
    isContinuation (UInt8.ofNat number) = decide (0x80 ≤ number ∧ number < 0xC0) := by
  rw [isContinuation, UInt8.toNat_ofNat_of_lt' small]

theorem isContinuation_first {number : Nat} (small : number < 256)
    (outside : number < 0x80 ∨ 0xC0 ≤ number) :
    isContinuation (UInt8.ofNat number) = false := by
  rw [isContinuation_ofNat small, decide_eq_false_iff_not]
  omega

theorem isContinuation_later (number : Nat) :
    isContinuation (UInt8.ofNat (number % 64 + 0x80)) = true := by
  rw [isContinuation_ofNat (by omega), decide_eq_true_iff]
  omega

theorem exists_utf8EncodeChar_eq_cons (character : Char) :
    ∃ first later, String.utf8EncodeChar character = first :: later ∧ isContinuation first = false ∧
      later.all isContinuation = true := by
  unfold String.utf8EncodeChar
  dsimp only
  -- One case for each number of bytes.
  repeat' split
  all_goals
    refine ⟨_, _, rfl, isContinuation_first (by omega) (by omega), ?_⟩
    simp only [List.all_cons, isContinuation_later, List.all_nil, Bool.and_self]

def BeginsAt (characters : List Char) (offset : Nat) : Prop :=
  offset ≤ byteLength characters ∧
    ∀ byte, (characters.flatMap String.utf8EncodeChar)[offset]? = some byte →
      isContinuation byte = false

namespace BeginsAt

theorem zero (characters : List Char) : BeginsAt characters 0 := by
  refine ⟨Nat.zero_le _, ?_⟩
  cases characters with
  | nil => simp
  | cons character rest =>
      obtain ⟨first, later, encoded, begins, -⟩ := exists_utf8EncodeChar_eq_cons character
      simp [encoded, begins]

theorem not_inside {character : Char} {offset : Nat} (positive : 0 < offset)
    (inside : offset < character.utf8Size) (rest : List Char) :
    ¬ BeginsAt (character :: rest) offset := by
  rintro ⟨-, begins⟩
  obtain ⟨first, later, encoded, -, continues⟩ := exists_utf8EncodeChar_eq_cons character
  have size : later.length + 1 = character.utf8Size := by
    rw [← String.length_utf8EncodeChar, encoded, List.length_cons]
  obtain ⟨previous, rfl⟩ := Nat.exists_eq_add_one.mpr positive
  have bound : previous < later.length := by omega
  have found : ((character :: rest).flatMap String.utf8EncodeChar)[previous + 1]? =
      some later[previous] := by
    rw [List.flatMap_cons, encoded, List.cons_append, List.getElem?_cons_succ,
      List.getElem?_append_left bound, List.getElem?_eq_getElem bound]
  have marked := List.all_eq_true.mp continues later[previous] (List.getElem_mem bound)
  rw [begins _ found] at marked
  contradiction

theorem cons_iff {character : Char} {rest : List Char} {offset : Nat}
    (past : character.utf8Size ≤ offset) :
    BeginsAt (character :: rest) offset ↔ BeginsAt rest (offset - character.utf8Size) := by
  have same : ((character :: rest).flatMap String.utf8EncodeChar)[offset]? =
      (rest.flatMap String.utf8EncodeChar)[offset - character.utf8Size]? := by
    rw [List.flatMap_cons, List.getElem?_append_right, String.length_utf8EncodeChar]
    rwa [String.length_utf8EncodeChar]
  rw [BeginsAt, BeginsAt, same, byteLength_cons, Nat.sub_le_iff_le_add']

end BeginsAt

theorem isSome_splitAtByte?_iff (offset : Nat) (characters : List Char) :
    (splitAtByte? offset characters).isSome = true ↔ BeginsAt characters offset := by
  fun_induction splitAtByte? offset characters with
  | case1 characters => simp [BeginsAt.zero]
  | case2 offset => simp [BeginsAt]
  | case3 offset character rest fits ih => rw [Option.isSome_map, ih, BeginsAt.cons_iff fits]
  | case4 offset character rest wide =>
      have inside := BeginsAt.not_inside (Nat.zero_lt_succ offset) (Nat.lt_of_not_le wide) rest
      simp [inside]

theorem isBoundary_iff (value : String) (offset : Nat) :
    isBoundary value offset = true ↔ BeginsAt value.toList offset := by
  rw [isBoundary, Bool.or_eq_true, beq_iff_eq]
  by_cases start : offset = 0
  · subst start
    simp [BeginsAt.zero]
  · rw [BeginsAt, ← toList_toByteArray, ← utf8ByteSize_eq_byteLength, or_iff_right start]
    split
    · rename_i inside
      have bound : offset < value.utf8ByteSize := inside
      have found :
          value.toByteArray.data.toList[offset]? = some (value.getUTF8Byte ⟨offset⟩ inside) :=
        List.getElem?_eq_getElem bound
      simp [found, Nat.le_of_lt bound]
    · rename_i outside
      have bound : value.utf8ByteSize ≤ offset := Nat.le_of_not_lt outside
      have absent : value.toByteArray.data.toList[offset]? = none := List.getElem?_eq_none bound
      rw [absent, beq_iff_eq]
      constructor
      · rintro rfl
        exact ⟨Nat.le_refl _, by simp⟩
      · rintro ⟨within, -⟩
        exact Nat.le_antisymm within bound

structure IsLastBoundary (value : String) (limit place : Nat) : Prop where
  within : place ≤ limit
  boundary : isBoundary value place = true
  last : ∀ later, place < later → later ≤ limit → isBoundary value later = false

namespace IsLastBoundary

variable {value : String} {limit place : Nat}

theorem self (boundary : isBoundary value limit = true) : IsLastBoundary value limit limit :=
  ⟨Nat.le_refl limit, boundary, fun _ after within => absurd after (Nat.not_lt.mpr within)⟩

theorem step (inside : ¬ isBoundary value (limit + 1) = true)
    (found : IsLastBoundary value limit place) :
    IsLastBoundary value (limit + 1) place := by
  refine ⟨Nat.le_succ_of_le found.within, found.boundary, ?_⟩
  intro later after within
  rcases Nat.le_or_eq_of_le_succ within with earlier | rfl
  · exact found.last later after earlier
  · exact Bool.eq_false_iff.mpr inside

end IsLastBoundary

/-- The way back from an offset leads to a boundary, as the start of a text is one. -/
theorem exists_boundaryFrom? (value : String) (offset : Nat) :
    ∃ place, boundaryFrom? value offset = some place ∧ IsLastBoundary value offset place := by
  fun_induction boundaryFrom? value offset with
  | case1 offset boundary => exact ⟨offset, rfl, .self boundary⟩
  | case2 inside => exact absurd rfl inside
  | case3 previous inside ih =>
      obtain ⟨place, found, lies⟩ := ih
      exact ⟨place, found, lies.step inside⟩

theorem exists_split_of_isBoundary {value : String} {offset : Nat}
    (boundary : isBoundary value offset = true) :
    ∃ before after, splitAtByte? offset value.toList = some (before, after) := by
  rw [isBoundary_iff, ← isSome_splitAtByte?_iff, Option.isSome_iff_exists] at boundary
  obtain ⟨⟨before, after⟩, split⟩ := boundary
  exact ⟨before, after, split⟩

theorem isSome_truncate? (limit : Nat) (value : String) :
    (truncate? limit value).isSome = true := by
  unfold truncate?
  split
  · rfl
  · obtain ⟨place, found, lies⟩ := exists_boundaryFrom? value limit
    obtain ⟨before, after, split⟩ := exists_split_of_isBoundary lies.boundary
    simp [found, before?, split]

def truncate (limit : Nat) (value : String) : String :=
  (truncate? limit value).get (isSome_truncate? limit value)

end DebugExpr.Text
