/-!
Quotients as double-precision arithmetic gives them, written with a fixed number of decimals. All
steps are exact in natural numbers; where two results are equally near, the even one is taken.
-/

namespace DebugExpr.Text

structure Ratio where
  numerator : Nat
  denominator : Nat
  deriving DecidableEq, Repr, Inhabited

def roundDiv (numerator denominator : Nat) : Nat :=
  let quotient := numerator / denominator
  let twice := 2 * (numerator % denominator)
  if denominator < twice ∨ (twice = denominator ∧ quotient % 2 = 1) then quotient + 1 else quotient

namespace Ratio

/-- The nearest ratio with 53 significant bits, for ratios below two to the power of 52. -/
def toDouble (ratio : Ratio) : Ratio :=
  if ratio.numerator = 0 then
    ⟨0, 1⟩
  else
    let shift := 52 + ratio.denominator.log2 - ratio.numerator.log2
    let scale := if ratio.numerator * Nat.pow 2 shift < Nat.pow 2 52 * ratio.denominator
      then shift + 1 else shift
    ⟨roundDiv (ratio.numerator * Nat.pow 2 scale) ratio.denominator, Nat.pow 2 scale⟩

def scale (ratio : Ratio) (factor : Nat) : Ratio :=
  ⟨ratio.numerator * factor, ratio.denominator⟩

def decimals (places : Nat) (ratio : Ratio) : String :=
  let unit := Nat.pow 10 places
  let units := roundDiv (ratio.numerator * unit) ratio.denominator
  let fraction := Nat.toDigits 10 (units % unit)
  toString (units / unit) ++ "." ++
    String.ofList (List.replicate (places - fraction.length) '0' ++ fraction)

/-- Whether two ratios differ by at most one of so many equal parts of one. -/
def Within (parts : Nat) (left right : Ratio) : Prop :=
  parts * (left.numerator * right.denominator) ≤
      parts * (right.numerator * left.denominator) + left.denominator * right.denominator ∧
    parts * (right.numerator * left.denominator) ≤
      parts * (left.numerator * right.denominator) + left.denominator * right.denominator

end Ratio

theorem roundDiv_near (numerator : Nat) {denominator : Nat} (positive : 0 < denominator) :
    2 * numerator ≤ (2 * roundDiv numerator denominator + 1) * denominator ∧
      2 * roundDiv numerator denominator * denominator ≤ 2 * numerator + denominator := by
  have parts := Nat.div_add_mod numerator denominator
  have small := Nat.mod_lt numerator positive
  unfold roundDiv
  dsimp only
  split <;> constructor <;> grind

namespace Ratio

theorem exists_toDouble_eq {ratio : Ratio} (proper : ratio.numerator ≤ ratio.denominator)
    (present : ratio.numerator ≠ 0) :
    ∃ scale, 52 ≤ scale ∧ ratio.toDouble =
      ⟨roundDiv (ratio.numerator * Nat.pow 2 scale) ratio.denominator, Nat.pow 2 scale⟩ := by
  have logarithms : ratio.numerator.log2 ≤ ratio.denominator.log2 :=
    (Nat.le_log2 (by omega)).mpr (Nat.le_trans (Nat.log2_self_le present) proper)
  unfold toDouble
  rw [if_neg present]
  dsimp only
  split
  · exact ⟨_, by omega, rfl⟩
  · exact ⟨_, by omega, rfl⟩

theorem within_roundDiv {ratio : Ratio} (positive : 0 < ratio.denominator) {parts unit : Nat}
    (fine : parts ≤ 2 * unit) :
    Within parts ⟨roundDiv (ratio.numerator * unit) ratio.denominator, unit⟩ ratio := by
  obtain ⟨below, above⟩ := roundDiv_near (ratio.numerator * unit) positive
  have share := Nat.mul_le_mul_right ratio.denominator fine
  have belowTimes := Nat.mul_le_mul_left parts below
  have aboveTimes := Nat.mul_le_mul_left parts above
  constructor <;> grind

theorem roundDiv_le_unit {ratio : Ratio} (proper : ratio.numerator ≤ ratio.denominator)
    (positive : 0 < ratio.denominator) (unit : Nat) :
    roundDiv (ratio.numerator * unit) ratio.denominator ≤ unit := by
  obtain ⟨_, above⟩ := roundDiv_near (ratio.numerator * unit) positive
  have whole := Nat.mul_le_mul_right unit proper
  have bound : 2 * roundDiv (ratio.numerator * unit) ratio.denominator * ratio.denominator <
      (2 * unit + 2) * ratio.denominator := by grind
  have rounds := Nat.lt_of_mul_lt_mul_right bound
  omega

/-- A ratio of at most one stays so as a double, and moves by at most half of the last bit. -/
theorem toDouble_near {ratio : Ratio} (proper : ratio.numerator ≤ ratio.denominator)
    (positive : 0 < ratio.denominator) :
    ratio.toDouble.numerator ≤ ratio.toDouble.denominator ∧
      ratio.toDouble.Within (Nat.pow 2 53) ratio := by
  by_cases present : ratio.numerator = 0
  · simp [toDouble, present, Within]
  · obtain ⟨scale, fine, same⟩ := exists_toDouble_eq proper present
    have large : Nat.pow 2 52 ≤ Nat.pow 2 scale := Nat.pow_le_pow_right (by decide) fine
    rw [same]
    exact ⟨roundDiv_le_unit proper positive _,
      within_roundDiv positive (Nat.mul_le_mul_left 2 large)⟩

end Ratio

end DebugExpr.Text
