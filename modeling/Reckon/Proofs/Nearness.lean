import Reckon.Number.Shortest

namespace Reckon

theorem roundedQuotient_le {n d k : Nat} (positive : 0 < d) (most : n ≤ k * d) : roundedQuotient n d ≤ k := by
  have near := (roundedQuotient_near n positive).1
  have below : roundedQuotient n d * d < (k + 1) * d := by
    rw [Nat.succ_mul]
    omega
  exact Nat.le_of_lt_succ (Nat.lt_of_mul_lt_mul_right below)

theorem le_roundedQuotient {n d k : Nat} (positive : 0 < d) (least : k * d ≤ n) : k ≤ roundedQuotient n d := by
  have near := (roundedQuotient_near n positive).2
  have above : k * d < (roundedQuotient n d + 1) * d := by
    rw [Nat.succ_mul]
    omega
  exact Nat.le_of_lt_succ (Nat.lt_of_mul_lt_mul_right above)

theorem roundedQuotient_eq {n d k : Nat} (above : 2 * n < 2 * (k * d) + d) (below : 2 * (k * d) < 2 * n + d) :
    roundedQuotient n d = k := by
  have near := roundedQuotient_near n (d := d) (by omega)
  have most : roundedQuotient n d * d < (k + 1) * d := by
    rw [Nat.succ_mul]
    omega
  have least : k * d < (roundedQuotient n d + 1) * d := by
    rw [Nat.succ_mul]
    omega
  have := Nat.lt_of_mul_lt_mul_right most
  have := Nat.lt_of_mul_lt_mul_right least
  omega

structure Close (near exact : Nat) : Prop where
  le : 2 ^ 53 * near ≤ (2 ^ 53 + 1) * exact
  ge : (2 ^ 53 - 1) * exact ≤ 2 ^ 53 * near

theorem close_mul_right_iff {near exact unit : Nat} (positive : 0 < unit) :
    Close (near * unit) (exact * unit) ↔ Close near exact := by
  constructor
  · rintro ⟨le, ge⟩
    rw [← Nat.mul_assoc, ← Nat.mul_assoc] at le ge
    exact ⟨Nat.le_of_mul_le_mul_right le positive, Nat.le_of_mul_le_mul_right ge positive⟩
  · rintro ⟨le, ge⟩
    constructor <;> rw [← Nat.mul_assoc, ← Nat.mul_assoc]
    · exact Nat.mul_le_mul_right unit le
    · exact Nat.mul_le_mul_right unit ge

/-- Two points of a grid that one value is close to are one point if few are below the first. -/
theorem eq_of_close {few many grid value : Nat} (positive : 0 < grid) (bound : few < 10 ^ 15)
    (first : Close value (few * grid)) (second : Close value (many * grid)) : many = few := by
  obtain ⟨le, ge⟩ := first
  obtain ⟨leOther, geOther⟩ := second
  have total : few * grid < 10 ^ 15 * grid := Nat.mul_lt_mul_of_pos_right bound positive
  have above : many * grid < (few + 1) * grid := by
    rw [Nat.succ_mul]
    omega
  have below : few * grid < (many + 1) * grid := by
    rw [Nat.succ_mul]
    omega
  have := Nat.lt_of_mul_lt_mul_right above
  have := Nat.lt_of_mul_lt_mul_right below
  omega

theorem Decimal.scale_pos (d : Decimal) : 0 < 10 ^ d.places := Nat.pow_pos (by decide)

namespace Magnitude

theorem units_eq_of_rank {m : Magnitude} {dropped kept : Nat} (rank : m.rank = dropped * 2 ^ 52 + kept)
    (most : kept ≤ 2 ^ 53) (least : dropped = 0 ∨ 2 ^ 52 ≤ kept) : m.units = kept * 2 ^ dropped := by
  have split := m.rank_eq
  have bounds : m.significand < 2 ^ 53 ∧ (m.scale = 0 ∨ 2 ^ 52 ≤ m.significand) := by
    unfold significand scale
    split <;> omega
  by_cases carried : kept = 2 ^ 53
  · -- The carry makes the next power of two, whose significand is the least.
    have next : m.scale = dropped + 1 ∧ m.significand = 2 ^ 52 := by omega
    have double : 2 ^ (dropped + 1) = 2 ^ dropped * 2 := Nat.pow_succ 2 dropped
    rw [units, next.1, next.2, carried, double]
    omega
  · have same : m.scale = dropped ∧ m.significand = kept := by omega
    rw [units, same.1, same.2]

variable {a b : Nat}

def excess (a b : Nat) : Nat := (a / b).log2 - 52

theorem lt_excess (positive : 0 < b) : a < 2 ^ 53 * (b * 2 ^ excess a b) := by
  have bits : a / b < 2 ^ ((a / b).log2 + 1) := Nat.lt_log2_self
  have more : (a / b).log2 + 1 ≤ 53 + excess a b := by
    unfold excess
    omega
  have bound := Nat.lt_of_lt_of_le bits (Nat.pow_le_pow_right (by decide) more)
  rw [Nat.div_lt_iff_lt_mul positive, Nat.pow_add] at bound
  rwa [Nat.mul_comm b, ← Nat.mul_assoc]

theorem excess_le (positive : 0 < b) (normal : 2 ^ 52 * b ≤ a) : 2 ^ 52 * (b * 2 ^ excess a b) ≤ a := by
  have most : 2 ^ 52 ≤ a / b := (Nat.le_div_iff_mul_le positive).mpr normal
  have exponent : 52 ≤ (a / b).log2 := (Nat.le_log2 (by omega)).mpr most
  have bits : 2 ^ (a / b).log2 ≤ a / b := Nat.log2_self_le (by omega)
  have whole : 52 + excess a b = (a / b).log2 := by
    unfold excess
    omega
  rw [← whole, Nat.le_div_iff_mul_le positive, Nat.pow_add] at bits
  rwa [Nat.mul_comm b, ← Nat.mul_assoc]

theorem excess_eq_zero (positive : 0 < b) (low : a < 2 ^ 53 * b) : excess a b = 0 := by
  have small : a / b < 2 ^ 53 := (Nat.div_lt_iff_lt_mul positive).mpr low
  unfold excess
  by_cases none : a / b = 0
  · rw [none]
    rfl
  · have := (Nat.log2_lt none).mpr small
    omega

def kept (a b : Nat) : Nat := roundedQuotient a (b * 2 ^ excess a b)

theorem nearest_rank (a b : Nat) : (nearest a b).rank = min (excess a b * 2 ^ 52 + kept a b) infinity.rank := rfl

theorem kept_le (positive : 0 < b) : kept a b ≤ 2 ^ 53 :=
  roundedQuotient_le (Nat.mul_pos positive (Nat.two_pow_pos _)) (Nat.le_of_lt (lt_excess positive))

theorem units_nearest (positive : 0 < b) (finite : (nearest a b).isInfinite = false) :
    (nearest a b).units = kept a b * 2 ^ excess a b := by
  have unbounded : (nearest a b).rank = excess a b * 2 ^ 52 + kept a b := by
    have other : (nearest a b).rank ≠ infinity.rank := by simpa [isInfinite] using finite
    have rank := nearest_rank a b
    omega
  refine units_eq_of_rank unbounded (kept_le positive) ?_
  by_cases low : a < 2 ^ 53 * b
  · exact .inl (excess_eq_zero positive low)
  · have normal : 2 ^ 52 * b ≤ a := by omega
    exact .inr (le_roundedQuotient (Nat.mul_pos positive (Nat.two_pow_pos _)) (excess_le positive normal))

theorem nearest_close (positive : 0 < b) (normal : 2 ^ 52 * b ≤ a) (finite : (nearest a b).isInfinite = false) :
    Close ((nearest a b).units * b) a := by
  have near := roundedQuotient_near a (Nat.mul_pos positive (Nat.two_pow_pos (excess a b)))
  have gap := excess_le positive normal
  have value : (nearest a b).units * b = roundedQuotient a (b * 2 ^ excess a b) * (b * 2 ^ excess a b) := by
    rw [units_nearest positive finite, kept, Nat.mul_comm b, Nat.mul_assoc]
  rw [value]
  constructor <;> omega

theorem units_nearest_le (positive : 0 < b) (low : a ≤ 2 ^ 52 * b) (finite : (nearest a b).isInfinite = false) :
    (nearest a b).units ≤ 2 ^ 52 := by
  have flat : excess a b = 0 := excess_eq_zero positive (by omega)
  rw [units_nearest positive finite, kept, flat, Nat.pow_zero, Nat.mul_one, Nat.mul_one]
  exact roundedQuotient_le positive low

theorem isInfinite_nearest (positive : 0 < b) (bound : a < 2 ^ 2097 * b) : (nearest a b).isInfinite = false := by
  have small : a / b < 2 ^ 2097 := (Nat.div_lt_iff_lt_mul positive).mpr bound
  have exponent : excess a b ≤ 2044 := by
    unfold excess
    by_cases none : a / b = 0
    · rw [none]
      decide
    · have := (Nat.log2_lt none).mpr small
      omega
  have most : kept a b ≤ 2 ^ 53 := kept_le positive
  have top : infinity.rank = 2047 * 2 ^ 52 := rfl
  have rank := nearest_rank a b
  have other : (nearest a b).rank ≠ infinity.rank := by omega
  simpa [isInfinite] using other

variable {m : Magnitude} {x : Decimal}

theorem lt_units_ofDecimal (large : 2 ^ 53 * 10 ^ x.places ≤ x.coefficient * 2 ^ binaryPlaces)
    (finite : (ofDecimal x).isInfinite = false) : 2 ^ 52 < (ofDecimal x).units := by
  have positive := x.scale_pos
  have close : Close ((ofDecimal x).units * 10 ^ x.places) _ := nearest_close positive (by omega) finite
  have least := close.ge
  apply Nat.lt_of_not_le
  intro most
  have := Nat.mul_le_mul_right (10 ^ x.places) most
  omega

theorem normal_of_read (normal : 2 ^ 52 < m.units) (finite : m.isInfinite = false) (read : ofDecimal x = m) :
    2 ^ 52 * 10 ^ x.places ≤ x.coefficient * 2 ^ binaryPlaces := by
  subst read
  apply Nat.le_of_not_lt
  intro low
  exact Nat.not_lt.mpr (units_nearest_le x.scale_pos (Nat.le_of_lt low) finite) normal

theorem close_toDecimal (normal : 2 ^ 52 < m.units) (finite : m.isInfinite = false) (read : ofDecimal x = m) :
    Close (m.toDecimal.coefficient * 10 ^ x.places) (x.coefficient * 10 ^ m.toDecimal.places) := by
  have above := normal_of_read normal finite read
  have close : Close (m.units * 10 ^ x.places) (x.coefficient * 2 ^ binaryPlaces) := by
    subst read
    exact nearest_close x.scale_pos above finite
  -- Both sides are put on the grid of the exact digits, on which the least units are `10 ^ places / 2 ^ binaryPlaces`.
  have exact : m.toDecimal.coefficient * 10 ^ x.places * 2 ^ binaryPlaces =
      m.units * 10 ^ x.places * 10 ^ m.toDecimal.places := by
    rw [Nat.mul_right_comm, coefficient_toDecimal, Nat.mul_right_comm]
  rw [← close_mul_right_iff (Nat.two_pow_pos binaryPlaces), exact, Nat.mul_right_comm x.coefficient]
  exact (close_mul_right_iff m.toDecimal.scale_pos).mpr close

theorem le_coefficient_toDecimal (normal : 2 ^ 52 < m.units) : 2 ^ 52 ≤ m.toDecimal.coefficient := by
  have significant : 2 ^ 52 ≤ m.significand := by
    apply Nat.le_of_not_lt
    intro low
    have flat : m.scale = 0 := by
      unfold significand at low
      unfold scale
      split at low <;> omega
    rw [units, flat, Nat.pow_zero, Nat.mul_one] at normal
    omega
  rw [toDecimal, Nat.mul_assoc]
  exact Nat.le_trans significant
    (Nat.le_mul_of_pos_right _ (Nat.mul_pos (Nat.two_pow_pos _) (Nat.pow_pos (by decide))))

end Magnitude

end Reckon
