import DebugExpr.Text.Bytes

/-!
Texts in the order of their UTF-8 bytes. Characters are encoded in a way that keeps their order, so
that texts compare by their bytes as they do by their characters.
-/

namespace DebugExpr.Text

theorem append_lt_append (common : List UInt8) {left right : List UInt8} (less : left < right) :
    common ++ left < common ++ right := by
  induction common with
  | nil => exact less
  | cons byte rest ih => exact List.cons_lt_cons_iff.mpr (.inr ⟨rfl, ih⟩)

theorem ofNat_cons_lt {first second : Nat} (less : first < second) (small : second < 256)
    (left right : List UInt8) :
    UInt8.ofNat first :: left < UInt8.ofNat second :: right := by
  apply List.cons_lt_cons_iff.mpr
  apply Or.inl
  rw [UInt8.lt_iff_toNat_lt, UInt8.toNat_ofNat_of_lt' (Nat.lt_trans less small),
    UInt8.toNat_ofNat_of_lt' small]
  exact less

/-- Whether numbers below a limit are written as bytes that compare as the numbers do, whatever
follows them. -/
def KeepsOrder (limit : Nat) (bytes : Nat → List UInt8) : Prop :=
  ∀ first second : Nat, first < second → second < limit → ∀ left right : List UInt8,
    bytes first ++ left < bytes second ++ right

namespace KeepsOrder

variable {limit : Nat}

theorem single (small : limit ≤ 256) : KeepsOrder limit fun number => [UInt8.ofNat number] := by
  intro first second less bound left right
  exact ofNat_cons_lt less (by omega) left right

theorem leading {base : Nat} (fits : limit + base ≤ 256) :
    KeepsOrder limit fun number => [UInt8.ofNat (number % limit + base)] := by
  intro first second less bound left right
  have low : first % limit = first := Nat.mod_eq_of_lt (Nat.lt_trans less bound)
  have high : second % limit = second := Nat.mod_eq_of_lt bound
  dsimp only
  rw [low, high]
  exact ofNat_cons_lt (by omega) (by omega) left right

theorem continued {bytes : Nat → List UInt8} (keeps : KeepsOrder limit bytes) :
    KeepsOrder (limit * 64) fun number =>
      bytes (number / 64) ++ [UInt8.ofNat (number % 64 + 128)] := by
  intro first second less bound left right
  rw [List.append_assoc, List.append_assoc]
  have digits : first / 64 < second / 64 ∨
    (first / 64 = second / 64 ∧ first % 64 < second % 64) := by omega
  rcases digits with lower | ⟨same, lower⟩
  · exact keeps (first / 64) (second / 64) lower (by omega) _ _
  · -- The digits in front are the same, so that the last one decides.
    rw [same]
    exact append_lt_append _ (ofNat_cons_lt (by omega) (by omega) left right)

theorem joined {last : Nat} {low high : Nat → List UInt8} (keepsLow : KeepsOrder (last + 1) low)
    (keepsHigh : KeepsOrder limit high)
    (apart : ∀ first second : Nat, first ≤ last → last < second → second < limit →
      ∀ left right : List UInt8, low first ++ left < high second ++ right) :
    KeepsOrder limit fun number => if number ≤ last then low number else high number := by
  intro first second less bound left right
  dsimp only
  by_cases secondLow : second ≤ last
  · rw [if_pos secondLow, if_pos (Nat.le_trans (Nat.le_of_lt less) secondLow)]
    exact keepsLow first second less (Nat.lt_succ_of_le secondLow) left right
  · rw [if_neg secondLow]
    by_cases firstLow : first ≤ last
    · rw [if_pos firstLow]
      exact apart first second firstLow (Nat.not_le.mp secondLow) bound left right
    · rw [if_neg firstLow]
      exact keepsHigh first second less bound left right

end KeepsOrder

def twoBytes (number : Nat) : List UInt8 :=
  [UInt8.ofNat (number / 64 % 32 + 192), UInt8.ofNat (number % 64 + 128)]

def threeBytes (number : Nat) : List UInt8 :=
  [UInt8.ofNat (number / 4096 % 16 + 224), UInt8.ofNat (number / 64 % 64 + 128),
    UInt8.ofNat (number % 64 + 128)]

def fourBytes (number : Nat) : List UInt8 :=
  [UInt8.ofNat (number / 262144 % 8 + 240), UInt8.ofNat (number / 4096 % 64 + 128),
    UInt8.ofNat (number / 64 % 64 + 128), UInt8.ofNat (number % 64 + 128)]

theorem keepsOrder_twoBytes : KeepsOrder 2048 twoBytes :=
  (KeepsOrder.leading (by decide : 32 + 192 ≤ 256)).continued

theorem keepsOrder_threeBytes : KeepsOrder 65536 threeBytes := by
  have keeps := (KeepsOrder.leading (by decide : 16 + 224 ≤ 256)).continued.continued
  simp only [Nat.div_div_eq_div_mul, Nat.reduceMul] at keeps
  exact keeps

theorem keepsOrder_fourBytes : KeepsOrder 2097152 fourBytes := by
  have keeps := (KeepsOrder.leading (by decide : 8 + 240 ≤ 256)).continued.continued.continued
  simp only [Nat.div_div_eq_div_mul, Nat.reduceMul] at keeps
  exact keeps

theorem keepsOrder_encoding : KeepsOrder 2097152 fun number =>
    if number ≤ 127 then [UInt8.ofNat number]
    else if number ≤ 2047 then twoBytes number
    else if number ≤ 65535 then threeBytes number
    else fourBytes number := by
  refine (KeepsOrder.single (by decide)).joined
    (keepsOrder_twoBytes.joined (keepsOrder_threeBytes.joined
    keepsOrder_fourBytes ?_) ?_) ?_
  -- Of two encodings of different lengths the first bytes differ, and the longer one starts with
  -- the greater one.
  · intro first second low _ _ left right
    exact ofNat_cons_lt (by omega) (by omega) _ _
  · intro first second low high _ left right
    split
    · exact ofNat_cons_lt (by omega) (by omega) _ _
    · exact ofNat_cons_lt (by omega) (by omega) _ _
  · intro first second low high _ left right
    split
    · exact ofNat_cons_lt (by omega) (by omega) _ _
    · split
      · exact ofNat_cons_lt (by omega) (by omega) _ _
      · exact ofNat_cons_lt (by omega) (by omega) _ _

theorem utf8EncodeChar_append_lt {first second : Char} (less : first < second)
    (left right : List UInt8) :
    String.utf8EncodeChar first ++ left < String.utf8EncodeChar second ++ right := by
  have bound : second.val.toNat < 2097152 := by
    rcases second.valid with low | high
    · exact Nat.lt_trans low (by decide)
    · exact Nat.lt_trans high.2 (by decide)
  exact keepsOrder_encoding first.val.toNat second.val.toNat less bound left right

def utf8Bytes (text : String) : List UInt8 :=
  text.toUTF8.data.toList

theorem utf8Bytes_eq (text : String) : utf8Bytes text = text.toList.flatMap String.utf8EncodeChar :=
  toList_toByteArray text

theorem flatMap_utf8EncodeChar_lt {left right : List Char} (less : left < right) :
    left.flatMap String.utf8EncodeChar < right.flatMap String.utf8EncodeChar := by
  induction less with
  | nil =>
      rename_i character rest
      rw [List.flatMap_nil, List.flatMap_cons]
      have present : String.utf8EncodeChar character ++ rest.flatMap String.utf8EncodeChar ≠
        [] := by simp
      obtain ⟨byte, others, same⟩ := List.exists_cons_of_ne_nil present
      rw [same]
      exact List.nil_lt_cons byte others
  | rel less => exact utf8EncodeChar_append_lt less _ _
  | cons _ ih => exact append_lt_append _ ih

theorem utf8Bytes_lt {left right : String} (less : left < right) :
    utf8Bytes left < utf8Bytes right := by
  rw [utf8Bytes_eq, utf8Bytes_eq]
  exact flatMap_utf8EncodeChar_lt (String.lt_iff.mp less)

end DebugExpr.Text
