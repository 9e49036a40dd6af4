namespace Reckon

-- Powers of natural numbers are those of the core library, also where powers in monoids are known.
@[default_instance 10000]
instance natPow : Pow Nat Nat := instPowNat

/-- The natural number nearest to `numerator / denominator`, of two equally near ones the even one. -/
def roundedQuotient (numerator denominator : Nat) : Nat :=
  let quotient := numerator / denominator
  let twice := 2 * (numerator % denominator)
  if twice < denominator then quotient
  else if denominator < twice then quotient + 1
  else quotient + quotient % 2

theorem roundedQuotient_mul_right (n : Nat) {d : Nat} (positive : 0 < d) :
    roundedQuotient (n * d) d = n := by
  simp [roundedQuotient, Nat.mul_div_cancel _ positive, positive]

theorem roundedQuotient_mul_mul_right (n d : Nat) {k : Nat} (positive : 0 < k) :
    roundedQuotient (n * k) (d * k) = roundedQuotient n d := by
  have lt : ∀ a b : Nat, 2 * (a * k) < b * k ↔ 2 * a < b := fun a b => by
    rw [← Nat.mul_assoc, Nat.mul_lt_mul_right positive]
  have gt : ∀ a b : Nat, b * k < 2 * (a * k) ↔ b < 2 * a := fun a b => by
    rw [← Nat.mul_assoc, Nat.mul_lt_mul_right positive]
  simp only [roundedQuotient, Nat.mul_div_mul_right _ _ positive, Nat.mul_mod_mul_right, lt, gt]

theorem roundedQuotient_near (n : Nat) {d : Nat} (positive : 0 < d) :
    2 * (roundedQuotient n d * d) ≤ 2 * n + d ∧ 2 * n ≤ 2 * (roundedQuotient n d * d) + d := by
  have whole := Nat.div_add_mod n d
  rw [Nat.mul_comm] at whole
  have next : (n / d + 1) * d = n / d * d + d := Nat.succ_mul _ _
  unfold roundedQuotient
  dsimp only
  split
  · omega
  · split
    · have := Nat.mod_lt n positive
      omega
    · have half : 2 * (n % d) = d := by omega
      rcases Nat.mod_two_eq_zero_or_one (n / d) with even | odd
      · rw [even, Nat.add_zero]; omega
      · rw [odd, next]; omega

end Reckon
