import Mathlib.Algebra.Order.Floor.Ring
import Mathlib.Algebra.Order.Field.Basic
import Mathlib.Algebra.Order.Group.Abs
import Mathlib.Tactic.Linarith
import Mathlib.Tactic.NormNum
import Mathlib.Tactic.Push

/-!
# Rounding to the nearest integer, ties to even

The rounding of IEEE arithmetic as a function on an ordered field with a floor.
It is within a half of its argument, fixes the integers and is monotone. An even
integer attracts both of its ties, which makes the half-lines that begin or end
at one have exact preimages.
-/

namespace GrCompress.HalfEvenRounding

set_option autoImplicit false

variable {K : Type} [Field K] [LinearOrder K] [FloorRing K]

def roundHalfEven (x : K) : ℤ :=
  if x < ⌊x⌋ + 1 / 2 then ⌊x⌋
  else if ⌊x⌋ + 1 / 2 < x then ⌊x⌋ + 1
  else if ⌊x⌋ % 2 = 0 then ⌊x⌋
  else ⌊x⌋ + 1

theorem floor_le_round_half_even (x : K) : ⌊x⌋ ≤ roundHalfEven x := by
  unfold roundHalfEven
  split_ifs <;> omega

theorem round_half_even_le_floor_add_one (x : K) : roundHalfEven x ≤ ⌊x⌋ + 1 := by
  unfold roundHalfEven
  split_ifs <;> omega

variable [IsStrictOrderedRing K]

theorem abs_round_half_even_sub_le (x : K) : |(roundHalfEven x : K) - x| ≤ 1 / 2 := by
  have lower := Int.floor_le x
  have upper := Int.lt_floor_add_one x
  unfold roundHalfEven
  rw [abs_le]
  split_ifs with below above even
  · constructor <;> linarith
  · push_cast
    constructor <;> linarith
  · constructor <;> linarith
  · push_cast
    constructor <;> linarith

@[simp] theorem round_half_even_intCast (n : ℤ) : roundHalfEven (n : K) = n := by
  have below : (n : K) < (⌊(n : K)⌋ : K) + 1 / 2 := by
    rw [Int.floor_intCast]
    linarith
  rw [roundHalfEven, if_pos below, Int.floor_intCast]

theorem round_half_even_mono {x y : K} (le : x ≤ y) : roundHalfEven x ≤ roundHalfEven y := by
  rcases (Int.floor_le_floor le).lt_or_eq with apart | same
  · have step := floor_le_round_half_even y
    have reach := round_half_even_le_floor_add_one x
    omega
  · unfold roundHalfEven
    rw [same]
    split_ifs <;> first | omega | (exfalso; linarith)

/-- An even integer is reached from its lower tie on. -/
theorem le_round_half_even_iff_of_even {n : ℤ} (even : n % 2 = 0) (x : K) :
    n ≤ roundHalfEven x ↔ (n : K) - 1 / 2 ≤ x := by
  constructor
  · intro reached
    have near := (abs_le.1 (abs_round_half_even_sub_le x)).2
    have cast : (n : K) ≤ (roundHalfEven x : K) := Int.cast_le.2 reached
    linarith
  · intro le
    by_contra short
    have cast : (roundHalfEven x : K) ≤ (n : K) - 1 := by
      have step : roundHalfEven x ≤ n - 1 := by omega
      have stepCast : (roundHalfEven x : K) ≤ ((n - 1 : ℤ) : K) := Int.cast_le.2 step
      rwa [Int.cast_sub, Int.cast_one] at stepCast
    -- then `x` is the tie between the odd `n - 1` and `n`
    have near := (abs_le.1 (abs_round_half_even_sub_le x)).1
    have tie : x = (n : K) - 1 / 2 := by linarith
    have floor : ⌊x⌋ = n - 1 := by
      rw [Int.floor_eq_iff, Int.cast_sub, Int.cast_one, tie]
      constructor <;> linarith
    have rounded : roundHalfEven x = n := by
      rw [roundHalfEven, floor, Int.cast_sub, Int.cast_one, if_neg (by linarith),
        if_neg (by linarith), if_neg (by omega)]
      omega
    omega

/-- And to its upper tie. -/
theorem round_half_even_le_iff_of_even {n : ℤ} (even : n % 2 = 0) (x : K) :
    roundHalfEven x ≤ n ↔ x ≤ (n : K) + 1 / 2 := by
  constructor
  · intro reached
    have near := (abs_le.1 (abs_round_half_even_sub_le x)).1
    have cast : (roundHalfEven x : K) ≤ (n : K) := Int.cast_le.2 reached
    linarith
  · intro le
    by_contra beyond
    have cast : (n : K) + 1 ≤ (roundHalfEven x : K) := by
      have step : n + 1 ≤ roundHalfEven x := by omega
      have stepCast : ((n + 1 : ℤ) : K) ≤ (roundHalfEven x : K) := Int.cast_le.2 step
      rwa [Int.cast_add, Int.cast_one] at stepCast
    have near := (abs_le.1 (abs_round_half_even_sub_le x)).2
    have tie : x = (n : K) + 1 / 2 := by linarith
    have floor : ⌊x⌋ = n := by
      rw [Int.floor_eq_iff, tie]
      constructor <;> linarith
    have rounded : roundHalfEven x = n := by
      rw [roundHalfEven, floor, if_neg (by linarith), if_neg (by linarith), if_pos even]
    omega

theorem round_half_even_eq_iff_of_even {n : ℤ} (even : n % 2 = 0) (x : K) :
    roundHalfEven x = n ↔ |x - n| ≤ 1 / 2 := by
  rw [le_antisymm_iff, round_half_even_le_iff_of_even even, le_round_half_even_iff_of_even even,
    abs_le]
  constructor
  · rintro ⟨upper, lower⟩
    constructor <;> linarith
  · rintro ⟨lower, upper⟩
    constructor <;> linarith

end GrCompress.HalfEvenRounding
