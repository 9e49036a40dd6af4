namespace Reckon

namespace Ranges

def among : List (Nat × Nat) → Nat → Bool
  | [], _ => false
  | (first, last) :: later, n => first ≤ n && (n ≤ last || among later n)

/-- Whether each range holds something and lies behind the one before it, and the first does not begin before a
given number. -/
def ascendingFrom : Nat → List (Nat × Nat) → Bool
  | _, [] => true
  | start, (first, last) :: later => start ≤ first && first ≤ last && ascendingFrom (last + 1) later

theorem any_eq_false_of_lt {table : List (Nat × Nat)} {start n : Nat} (ascending : ascendingFrom start table = true)
    (below : n < start) : (table.any fun r => r.1 ≤ n && n ≤ r.2) = false := by
  induction table generalizing start with
  | nil => rfl
  | cons r later ih =>
    simp only [ascendingFrom, Bool.and_eq_true, decide_eq_true_eq] at ascending
    have rest := ih ascending.2 (by omega)
    simp only [List.any_cons, rest, Bool.or_false, Bool.and_eq_false_iff, decide_eq_false_iff_not]
    omega

theorem among_eq_any {table : List (Nat × Nat)} {start : Nat} (ascending : ascendingFrom start table = true)
    (n : Nat) : among table n = table.any fun r => r.1 ≤ n && n ≤ r.2 := by
  induction table generalizing start with
  | nil => rfl
  | cons r later ih =>
    simp only [ascendingFrom, Bool.and_eq_true, decide_eq_true_eq] at ascending
    rw [among, List.any_cons, ih ascending.2]
    by_cases below : n < r.1
    · simp [any_eq_false_of_lt ascending.2 (by omega : n < r.2 + 1), Nat.not_le.mpr below]
    · simp [Nat.not_lt.mp below]

end Ranges

end Reckon
