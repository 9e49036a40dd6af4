import Reckon.Proofs.Digits

namespace Reckon

namespace Magnitude

/-- A finite magnitude above the lowest exponent that is read from a decimal of at most 15 digits before its zeros, with
as many places as its exact digits. -/
structure Short (m : Magnitude) (digits zeros : Nat) : Prop where
  normal : 2 ^ 52 < m.units
  finite : m.isInfinite = false
  few : digits < 10 ^ 15
  read : ofDecimal ⟨digits * 10 ^ zeros, m.toDecimal.places⟩ = m

namespace Short

variable {m : Magnitude} {digits zeros : Nat}

theorem close (short : m.Short digits zeros) {c : Nat} (read : ofDecimal ⟨c, m.toDecimal.places⟩ = m) :
    Close m.toDecimal.coefficient c :=
  (close_mul_right_iff m.toDecimal.scale_pos).mp (close_toDecimal short.normal short.finite read)

theorem eq_of_read (short : m.Short digits zeros) {many : Nat}
    (read : ofDecimal ⟨many * 10 ^ zeros, m.toDecimal.places⟩ = m) : many = digits :=
  eq_of_close (Nat.pow_pos (by decide)) short.few (short.close short.read) (short.close read)

theorem unit_le (short : m.Short digits zeros) : m.toDecimal.coefficient.repr.length - 15 ≤ zeros := by
  apply Nat.le_of_not_lt
  intro finer
  -- On a finer grid the decimal would have more than 15 digits.
  have long : 10 ^ (15 + zeros) ≤ m.toDecimal.coefficient := ten_pow_le_of_lt_length (by omega) (by omega)
  have close := (short.close short.read).le
  have bound : digits * 10 ^ zeros ≤ (10 ^ 15 - 1) * 10 ^ zeros :=
    Nat.mul_le_mul_right _ (Nat.le_sub_one_of_lt short.few)
  have positive : 0 < 10 ^ zeros := Nat.pow_pos (by decide)
  rw [Nat.pow_add] at long
  omega

theorem rounded_toDecimal (short : m.Short digits zeros) :
    m.toDecimal.rounded 15 = ⟨digits * 10 ^ zeros, m.toDecimal.places⟩ := by
  have close := short.close short.read
  have size : m.toDecimal.coefficient < 10 ^ 15 * 10 ^ (m.toDecimal.coefficient.repr.length - 15) := by
    rw [← Nat.pow_add]
    exact Nat.lt_of_lt_of_le (lt_ten_pow_length _) (Nat.pow_le_pow_right (by decide) (by omega))
  obtain ⟨more, sum⟩ := Nat.exists_eq_add_of_le' short.unit_le
  have split : digits * 10 ^ zeros =
      digits * 10 ^ more * 10 ^ (m.toDecimal.coefficient.repr.length - 15) := by
    rw [Nat.mul_assoc, ← Nat.pow_add, ← sum]
  rw [split] at close ⊢
  obtain ⟨le, ge⟩ := close
  have nearest : roundedQuotient m.toDecimal.coefficient (10 ^ (m.toDecimal.coefficient.repr.length - 15)) =
      digits * 10 ^ more := roundedQuotient_eq (by omega) (by omega)
  rw [Decimal.rounded, nearest]

end Short

variable {m : Magnitude} {exact : Decimal} {unit : Nat}

theorem neighbour?_on_grid {d : Decimal} (hit : m.neighbour? exact unit = some d) :
    d.places = exact.places ∧ ∃ many, d.coefficient = many * unit := by
  have below : exact.coefficient - exact.coefficient % unit = exact.coefficient / unit * unit :=
    Nat.div_mul_self_eq_mod_sub_self.symm
  have above : exact.coefficient - exact.coefficient % unit + unit = (exact.coefficient / unit + 1) * unit := by
    rw [Nat.succ_mul, below]
  unfold neighbour? at hit
  dsimp only at hit
  split at hit
  · split at hit <;> cases hit
    · exact ⟨rfl, _, above⟩
    · exact ⟨rfl, _, below⟩
  · split at hit <;> cases hit
    exact ⟨rfl, _, above⟩

/-- No point of a grid next to the exact value is read as a magnitude if the search misses there. -/
theorem not_read_of_miss (miss : m.neighbour? exact unit = none) {many : Nat}
    (above : exact.coefficient < many * unit + unit) (below : many * unit < exact.coefficient + unit) :
    ofDecimal ⟨many * unit, exact.places⟩ ≠ m := by
  have positive : 0 < unit := by omega
  have remainder := Nat.mod_lt exact.coefficient positive
  have whole := Nat.div_add_mod' exact.coefficient unit
  have least : exact.coefficient / unit ≤ many := by
    have := Nat.lt_of_lt_of_eq above (Nat.succ_mul many unit).symm
    exact Nat.le_of_lt_succ ((Nat.div_lt_iff_lt_mul positive).mpr this)
  have most : many ≤ exact.coefficient / unit + 1 := by
    apply Nat.le_of_lt_succ
    apply Nat.lt_of_mul_lt_mul_right (a := unit)
    rw [Nat.succ_mul, Nat.succ_mul]
    omega
  unfold neighbour? at miss
  dsimp only at miss
  split at miss
  · split at miss <;> cases miss
  · rename_i notBelow
    split at miss
    · cases miss
    · rename_i notAbove
      rw [← Nat.div_mul_self_eq_mod_sub_self] at notBelow notAbove
      rcases Nat.eq_or_lt_of_le least with same | more
      · rw [← same]
        exact fun read => notBelow (reads_iff.mpr read)
      · have next : many = exact.coefficient / unit + 1 := by omega
        rw [next, Nat.succ_mul]
        exact fun read => notAbove (reads_iff.mpr read)

namespace Short

variable {digits zeros : Nat}

theorem misses_coarser (short : m.Short digits zeros) (last : ¬ 10 ∣ digits) {size : Nat} (coarser : zeros < size) :
    m.neighbour? m.toDecimal (10 ^ size) = none := by
  rw [Option.eq_none_iff_forall_ne_some]
  intro d hit
  -- A hit would be on the grid of the decimal as well, so it would be the decimal, and its last digit a zero.
  obtain ⟨places, many, coefficient⟩ := neighbour?_on_grid hit
  obtain ⟨more, rfl⟩ := Nat.exists_eq_add_of_lt coarser
  have split : many * 10 ^ (zeros + more + 1) = many * 10 ^ more * 10 * 10 ^ zeros := by
    rw [Nat.pow_succ, Nat.pow_add, Nat.mul_comm (10 ^ zeros)]
    ac_rfl
  have read : ofDecimal ⟨many * 10 ^ more * 10 * 10 ^ zeros, m.toDecimal.places⟩ = m := by
    rw [← split, ← coefficient, ← places]
    exact ofDecimal_neighbour? hit
  exact last ⟨_, (short.eq_of_read read).symm.trans (Nat.mul_comm _ _)⟩

theorem hits (short : m.Short digits zeros) :
    m.neighbour? m.toDecimal (10 ^ zeros) = some ⟨digits * 10 ^ zeros, m.toDecimal.places⟩ := by
  cases hit : m.neighbour? m.toDecimal (10 ^ zeros) with
  | none =>
    obtain ⟨le, ge⟩ := short.close short.read
    have bound : digits * 10 ^ zeros < 10 ^ 15 * 10 ^ zeros :=
      Nat.mul_lt_mul_of_pos_right short.few (Nat.pow_pos (by decide))
    exact absurd short.read (not_read_of_miss hit (by omega) (by omega))
  | some d =>
    obtain ⟨places, many, coefficient⟩ := neighbour?_on_grid hit
    have form : d = ⟨many * 10 ^ zeros, m.toDecimal.places⟩ := by rw [← coefficient, ← places]
    have read : ofDecimal ⟨many * 10 ^ zeros, m.toDecimal.places⟩ = m := by
      rw [← form]
      exact ofDecimal_neighbour? hit
    rw [form, short.eq_of_read read]

theorem firstNeighbour_eq (short : m.Short digits zeros) (last : ¬ 10 ∣ digits) {size : Nat} (enough : zeros ≤ size) :
    m.firstNeighbour m.toDecimal size = ⟨digits * 10 ^ zeros, m.toDecimal.places⟩ := by
  induction size with
  | zero =>
    obtain rfl := Nat.le_zero.mp enough
    have same : m.toDecimal.coefficient = digits := by
      apply short.eq_of_read
      rw [Nat.pow_zero, Nat.mul_one]
      exact m.ofDecimal_toDecimal
    rw [firstNeighbour, Nat.pow_zero, Nat.mul_one, ← same]
  | succ size ih =>
    -- The search misses on all grids coarser than that of the decimal, and stops there.
    rw [firstNeighbour]
    rcases Nat.eq_or_lt_of_le enough with same | coarser
    · rw [← same, short.hits, Option.getD_some]
    · rw [short.misses_coarser last coarser, Option.getD_none]
      exact ih (Nat.le_of_lt_succ coarser)

theorem shortest_eq (short : m.Short digits zeros) (last : ¬ 10 ∣ digits) :
    m.shortest = ⟨digits * 10 ^ zeros, m.toDecimal.places⟩ := by
  apply short.firstNeighbour_eq last
  have close := (short.close short.read).ge
  have size := lt_ten_pow_length m.toDecimal.coefficient
  have some : 10 ^ zeros ≤ digits * 10 ^ zeros := by
    apply Nat.le_mul_of_pos_left
    apply Nat.pos_of_ne_zero
    rintro rfl
    exact last (Nat.dvd_zero 10)
  have bound : 10 ^ zeros < 10 ^ (m.toDecimal.coefficient.repr.length + 1) := by
    rw [Nat.pow_succ]
    omega
  exact Nat.le_of_lt_succ ((Nat.pow_lt_pow_iff_right (by decide)).mp bound)

end Short

section Read

variable {d : Decimal} {digits zeros : Nat}

theorem finite_ofDecimal (high : d.coefficient ≤ 10 ^ 300 * 10 ^ d.places) : (ofDecimal d).isInfinite = false := by
  apply isInfinite_nearest d.scale_pos
  have top : 10 ^ 300 * 2 ^ binaryPlaces < 2 ^ 2097 := by decide +kernel
  calc d.coefficient * 2 ^ binaryPlaces
      ≤ 10 ^ 300 * 10 ^ d.places * 2 ^ binaryPlaces := Nat.mul_le_mul_right _ high
    _ = 10 ^ 300 * 2 ^ binaryPlaces * 10 ^ d.places := Nat.mul_right_comm _ _ _
    _ < 2 ^ 2097 * 10 ^ d.places := Nat.mul_lt_mul_of_pos_right top d.scale_pos

theorem normal_ofDecimal (low : 10 ^ d.places ≤ d.coefficient * 10 ^ 300)
    (finite : (ofDecimal d).isInfinite = false) : 2 ^ 52 < (ofDecimal d).units := by
  apply lt_units_ofDecimal _ finite
  have bottom : 2 ^ 53 * 10 ^ 300 ≤ 2 ^ binaryPlaces := by decide +kernel
  calc 2 ^ 53 * 10 ^ d.places
      ≤ 2 ^ 53 * (d.coefficient * 10 ^ 300) := Nat.mul_le_mul_left _ low
    _ = d.coefficient * (2 ^ 53 * 10 ^ 300) := Nat.mul_left_comm _ _ _
    _ ≤ d.coefficient * 2 ^ binaryPlaces := Nat.mul_le_mul_left _ bottom

theorem places_le (normal : 2 ^ 52 < (ofDecimal d).units) (finite : (ofDecimal d).isInfinite = false)
    (few : digits < 10 ^ 15) (split : d.coefficient = digits * 10 ^ zeros) :
    d.places ≤ zeros + (ofDecimal d).toDecimal.places := by
  apply Nat.le_of_not_lt
  intro finer
  -- The exact digits make a whole number of at least 52 bits, so a finer grid takes the decimal more than 15 digits.
  obtain ⟨more, sum⟩ := Nat.exists_eq_add_of_lt finer
  have close := (close_toDecimal normal finite rfl).le
  have least := le_coefficient_toDecimal normal
  have positive : 0 < 10 ^ (zeros + (ofDecimal d).toDecimal.places) := Nat.pow_pos (by decide)
  have bound := Nat.mul_lt_mul_of_pos_right few positive
  have scale : 10 * 10 ^ (zeros + (ofDecimal d).toDecimal.places) ≤ 10 ^ d.places := by
    rw [Nat.mul_comm, ← Nat.pow_succ, sum]
    exact Nat.pow_le_pow_right (by decide) (by omega)
  have size := Nat.mul_le_mul least scale
  rw [split, Nat.mul_assoc digits, ← Nat.pow_add] at close
  omega

theorem exists_short (low : 10 ^ d.places ≤ d.coefficient * 10 ^ 300) (high : d.coefficient ≤ 10 ^ 300 * 10 ^ d.places)
    (few : digits < 10 ^ 15) (split : d.coefficient = digits * 10 ^ zeros) :
    ∃ more, (ofDecimal d).Short digits more ∧ d.Same ⟨digits * 10 ^ more, (ofDecimal d).toDecimal.places⟩ := by
  have finite := finite_ofDecimal high
  have normal := normal_ofDecimal low finite
  obtain ⟨more, sum⟩ := Nat.exists_eq_add_of_le (places_le normal finite few split)
  have same : d.Same ⟨digits * 10 ^ more, (ofDecimal d).toDecimal.places⟩ := by
    rw [Decimal.Same, split, Nat.mul_assoc, ← Nat.pow_add, sum, Nat.add_comm, Nat.pow_add, Nat.mul_assoc]
  exact ⟨more, ⟨normal, finite, few, (ofDecimal_same same).symm⟩, same⟩

end Read

end Magnitude

end Reckon
