import Reckon.Number.Decimal

namespace Reckon

/-- A magnitude by its rank, which is also its bit pattern: 11 bits of exponent above 52 bits of fraction. -/
structure Magnitude where
  rank : Nat
  rank_le : rank ≤ 2047 * 2 ^ 52
deriving DecidableEq

namespace Magnitude

def binaryPlaces : Nat := 1074

def zero : Magnitude := ⟨0, by decide⟩

def infinity : Magnitude := ⟨2047 * 2 ^ 52, Nat.le_refl _⟩

def isInfinite (m : Magnitude) : Bool := m.rank == infinity.rank

def significand (m : Magnitude) : Nat :=
  if m.rank < 2 ^ 52 then m.rank else 2 ^ 52 + m.rank % 2 ^ 52

/-- How many bits follow the significand, counted in least units. The lowest two exponents share their
scale. -/
def scale (m : Magnitude) : Nat := m.rank / 2 ^ 52 - 1

/-- The value in least units. For infinity, the first power of two past the finite magnitudes. -/
def units (m : Magnitude) : Nat := m.significand * 2 ^ m.scale

/-- The magnitude nearest to `numerator / denominator` least units, of two equally near ones that of even
rank.

Above `2 ^ 53` units magnitudes lie `2 ^ s` units apart, where `s` bits have to be dropped to keep 53, and
there are `2 ^ 52` of them for each `s`. A carry into the next power of two lands on its first rank. -/
def nearest (numerator denominator : Nat) : Magnitude :=
  let dropped := (numerator / denominator).log2 - 52
  let kept := roundedQuotient numerator (denominator * 2 ^ dropped)
  ⟨min (dropped * 2 ^ 52 + kept) infinity.rank, Nat.min_le_right _ _⟩

theorem nearest_mul_mul_right (numerator denominator : Nat) {k : Nat} (positive : 0 < k) :
    nearest (numerator * k) (denominator * k) = nearest numerator denominator := by
  have same : ∀ s, denominator * k * 2 ^ s = denominator * 2 ^ s * k := fun s => Nat.mul_right_comm _ _ _
  simp only [nearest, Nat.mul_div_mul_right _ _ positive, same, roundedQuotient_mul_mul_right _ _ positive]

theorem rank_eq (m : Magnitude) : m.scale * 2 ^ 52 + m.significand = m.rank := by
  unfold scale significand
  split <;> omega

theorem log2_units (m : Magnitude) : m.units.log2 - 52 = m.scale := by
  unfold units
  by_cases low : m.rank < 2 ^ 52
  · have flat : m.scale = 0 := by unfold scale; omega
    rw [flat, Nat.pow_zero, Nat.mul_one, significand, if_pos low]
    by_cases none : m.rank = 0
    · rw [none]; rfl
    · have := (Nat.log2_lt none).2 low
      omega
  · have normal : 2 ^ 52 ≤ m.significand ∧ m.significand < 2 ^ 53 := by
      rw [significand, if_neg low]
      omega
    have whole : m.significand * 2 ^ m.scale ≠ 0 :=
      Nat.mul_ne_zero (by omega) (Nat.ne_of_gt (Nat.two_pow_pos _))
    have exponent : (m.significand * 2 ^ m.scale).log2 = 52 + m.scale := by
      rw [Nat.log2_eq_iff whole]
      constructor
      · rw [Nat.pow_add]
        exact Nat.mul_le_mul_right _ normal.1
      · rw [Nat.add_right_comm, Nat.pow_add]
        exact Nat.mul_lt_mul_of_pos_right normal.2 (Nat.two_pow_pos _)
    rw [exponent, Nat.add_sub_cancel_left]

theorem nearest_units (m : Magnitude) : nearest m.units 1 = m := by
  have kept : roundedQuotient m.units (1 * 2 ^ m.scale) = m.significand := by
    rw [Nat.one_mul, units, roundedQuotient_mul_right _ (Nat.two_pow_pos _)]
  have bounded : min (m.scale * 2 ^ 52 + m.significand) infinity.rank = m.rank := by
    rw [rank_eq]
    exact Nat.min_eq_left m.rank_le
  simp only [nearest, Nat.div_one, log2_units, kept, bounded]

def ofDecimal (d : Decimal) : Magnitude :=
  nearest (d.coefficient * 2 ^ binaryPlaces) (10 ^ d.places)

def decimalPlaces (m : Magnitude) : Nat := binaryPlaces - m.scale

def toDecimal (m : Magnitude) : Decimal :=
  ⟨m.significand * 2 ^ (m.scale - binaryPlaces) * 5 ^ m.decimalPlaces, m.decimalPlaces⟩

theorem coefficient_toDecimal (m : Magnitude) :
    m.toDecimal.coefficient * 2 ^ binaryPlaces = m.units * 10 ^ m.toDecimal.places := by
  have twos : (2 : Nat) ^ (m.scale - binaryPlaces) * 2 ^ binaryPlaces =
      2 ^ m.scale * 2 ^ m.decimalPlaces := by
    rw [← Nat.pow_add, ← Nat.pow_add]
    exact congrArg (2 ^ ·) (by unfold decimalPlaces; omega)
  have tens : (10 : Nat) ^ m.decimalPlaces = 2 ^ m.decimalPlaces * 5 ^ m.decimalPlaces := by
    rw [← Nat.mul_pow]
  have regroup : ∀ a b c d : Nat, a * b * c * d = a * (b * d) * c := fun a b c d => by ac_rfl
  rw [toDecimal, regroup, twos, tens, units, ← Nat.mul_assoc, ← Nat.mul_assoc]

theorem ofDecimal_toDecimal (m : Magnitude) : ofDecimal m.toDecimal = m := by
  have scaled := nearest_mul_mul_right m.units 1 (Nat.pow_pos (n := m.toDecimal.places) (by decide : 0 < 10))
  rw [Nat.one_mul, ← coefficient_toDecimal] at scaled
  exact scaled.trans m.nearest_units

end Magnitude

end Reckon
