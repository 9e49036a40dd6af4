import Reckon.Proofs.Nearness
import Reckon.Proofs.Numerals

namespace Reckon

theorem lt_ten_pow_length (n : Nat) : n < 10 ^ n.repr.length := by
  rw [← String.length_toList, Nat.toList_repr]
  exact (Nat.length_toDigits_le_iff (by decide) Nat.length_toDigits_pos).mp (Nat.le_refl _)

theorem ten_pow_le_of_lt_length {n places : Nat} (positive : 0 < places) (long : places < n.repr.length) :
    10 ^ places ≤ n := by
  rw [← String.length_toList, Nat.toList_repr] at long
  apply Nat.le_of_not_lt
  intro small
  exact Nat.not_lt.mpr ((Nat.length_toDigits_le_iff (by decide) positive).mpr small) long

theorem digitValue_lt {c : Char} (digit : c.isDigit = true) : c.toNat - '0'.toNat < 10 := by
  have bounds := Reading.isDigit_bounds digit
  have zero : '0'.toNat = 48 := rfl
  omega

theorem digitValue_inj {c d : Char} (digit : c.isDigit = true) (other : d.isDigit = true)
    (same : c.toNat - '0'.toNat = d.toNat - '0'.toNat) : c = d := by
  have bounds := Reading.isDigit_bounds digit
  have others := Reading.isDigit_bounds other
  have zero : '0'.toNat = 48 := rfl
  exact Char.toNat_inj.mp (by omega)

theorem ofDigitChars_cons_zero (c : Char) (cs : List Char) :
    Nat.ofDigitChars 10 (c :: cs) 0 = 10 ^ cs.length * (c.toNat - '0'.toNat) + Nat.ofDigitChars 10 cs 0 := by
  rw [Nat.ofDigitChars_cons, Nat.ofDigitChars_eq_ofDigitChars_zero, Nat.mul_zero, Nat.zero_add]

theorem ofDigitChars_lt {digits : List Char} (all : ∀ c ∈ digits, c.isDigit = true) :
    Nat.ofDigitChars 10 digits 0 < 10 ^ digits.length := by
  induction digits with
  | nil => decide
  | cons c cs ih =>
    obtain ⟨digit, all⟩ := List.forall_mem_cons.mp all
    have tail := ih all
    have head : 10 ^ cs.length * (c.toNat - '0'.toNat) ≤ 10 ^ cs.length * 9 :=
      Nat.mul_le_mul_left _ (Nat.le_of_lt_succ (digitValue_lt digit))
    rw [ofDigitChars_cons_zero, List.length_cons, Nat.pow_succ]
    omega

theorem ofDigitChars_inj {digits others : List Char} (all : ∀ c ∈ digits, c.isDigit = true)
    (allOthers : ∀ c ∈ others, c.isDigit = true) (length : digits.length = others.length)
    (same : Nat.ofDigitChars 10 digits 0 = Nat.ofDigitChars 10 others 0) : digits = others := by
  induction digits generalizing others with
  | nil => exact (List.eq_nil_of_length_eq_zero length.symm).symm
  | cons c cs ih =>
    cases others with
    | nil => cases length
    | cons d ds =>
      obtain ⟨digit, all⟩ := List.forall_mem_cons.mp all
      obtain ⟨other, allOthers⟩ := List.forall_mem_cons.mp allOthers
      have tails : cs.length = ds.length := Nat.succ.inj length
      have low := ofDigitChars_lt all
      have lowOther := ofDigitChars_lt allOthers
      have positive : 0 < 10 ^ ds.length := Nat.pow_pos (by decide)
      rw [ofDigitChars_cons_zero, ofDigitChars_cons_zero, tails] at same
      rw [tails] at low
      have heads := congrArg (· / 10 ^ ds.length) same
      have rest := congrArg (· % 10 ^ ds.length) same
      simp only [Nat.mul_add_div positive, Nat.mul_add_mod, Nat.div_eq_of_lt, Nat.mod_eq_of_lt, low, lowOther,
        Nat.add_zero] at heads rest
      rw [digitValue_inj digit other heads, ih all allOthers tails rest]

theorem ofDigitChars_dropWhile (digits : List Char) :
    Nat.ofDigitChars 10 (digits.dropWhile (· == '0')) 0 = Nat.ofDigitChars 10 digits 0 := by
  induction digits with
  | nil => rfl
  | cons c cs ih =>
    by_cases zero : c = '0'
    · rw [List.dropWhile_cons_of_pos (by simp [zero]), ih, ofDigitChars_cons_zero, zero, Nat.sub_self, Nat.mul_zero,
        Nat.zero_add]
    · rw [List.dropWhile_cons_of_neg (by simp [zero])]

theorem repr_ofDigitChars {c : Char} {cs : List Char} (all : ∀ d ∈ c :: cs, d.isDigit = true)
    (leading : c ≠ '0') : (Nat.ofDigitChars 10 (c :: cs) 0).repr.toList = c :: cs := by
  have digit := all c List.mem_cons_self
  have head : 1 ≤ c.toNat - '0'.toNat := by
    apply Nat.pos_of_ne_zero
    intro none
    exact leading (digitValue_inj digit (by decide) (by rw [none, Nat.sub_self]))
  refine ofDigitChars_inj (Decimal.repr_isDigit _) all ?_ ?_
  · have least : 10 ^ cs.length ≤ Nat.ofDigitChars 10 (c :: cs) 0 := by
      rw [ofDigitChars_cons_zero]
      exact Nat.le_trans (Nat.le_mul_of_pos_right _ head) (Nat.le_add_right _ _)
    have long := (Nat.pow_lt_pow_iff_right (by decide)).mp (Nat.lt_of_le_of_lt least (lt_ten_pow_length _))
    rw [String.length_toList, List.length_cons]
    refine Nat.le_antisymm (Nat.le_of_not_lt fun longer => ?_) long
    exact Nat.not_lt.mpr (ten_pow_le_of_lt_length (Nat.succ_pos _) longer) (ofDigitChars_lt all)
  · rw [ofDigitChars_repr]

/-- The digits before a point without zeros in front, but for the one that stands alone. -/
def dropFirstZeros (digits : List Char) : List Char :=
  match digits.dropWhile (· == '0') with
  | [] => ['0']
  | digits => digits

theorem repr_eq_dropFirstZeros {digits : List Char} (all : ∀ c ∈ digits, c.isDigit = true) :
    (Nat.ofDigitChars 10 digits 0).repr = String.ofList (dropFirstZeros digits) := by
  rw [← String.toList_inj, String.toList_ofList, ← ofDigitChars_dropWhile]
  unfold dropFirstZeros
  cases left : digits.dropWhile (· == '0') with
  | nil => rfl
  | cons c cs =>
    have leading : c ≠ '0' := by
      have fails := List.head_dropWhile_not (· == '0') (l := digits) (by simp [left])
      simpa [left] using fails
    apply repr_ofDigitChars _ leading
    intro d member
    exact all d ((List.dropWhile_suffix _).subset (left ▸ member))

theorem rdropWhile_append_zeros (digits : List Char) (zeros : Nat) :
    (digits ++ List.replicate zeros '0').rdropWhile (· == '0') = digits.rdropWhile (· == '0') := by
  induction zeros with
  | zero => rw [List.replicate_zero, List.append_nil]
  | succ zeros ih => rw [List.replicate_succ', ← List.append_assoc, List.rdropWhile_concat_pos _ _ _ rfl, ih]

namespace Decimal

theorem padded_ofDigitChars {digits : List Char} (some : digits ≠ []) (all : ∀ c ∈ digits, c.isDigit = true) :
    padded digits.length (Nat.ofDigitChars 10 digits 0) = digits := by
  apply ofDigitChars_inj padded_isDigit all
  · exact length_padded (List.length_pos_iff.mpr some) (ofDigitChars_lt all)
  · exact ofDigitChars_padded _ _

theorem fractionDigits_ofDigits (whole : List Char) {fraction : List Char}
    (all : ∀ c ∈ fraction, c.isDigit = true) :
    (ofDigits whole fraction).fractionDigits = fraction.rdropWhile (· == '0') := by
  by_cases none : fraction = []
  · rw [none]
    exact fractionDigits_of_places_eq_zero rfl
  · have remainder : Nat.ofDigitChars 10 (whole ++ fraction) 0 % 10 ^ fraction.length =
        Nat.ofDigitChars 10 fraction 0 := by
      rw [Nat.ofDigitChars_append, Nat.ofDigitChars_eq_ofDigitChars_zero, Nat.mul_add_mod,
        Nat.mod_eq_of_lt (ofDigitChars_lt all)]
    rw [fractionDigits, ofDigits, remainder, padded_ofDigitChars none all, List.rdropWhile]

theorem whole_ofDigits (whole : List Char) {fraction : List Char} (all : ∀ c ∈ fraction, c.isDigit = true) :
    (ofDigits whole fraction).coefficient / 10 ^ (ofDigits whole fraction).places =
      Nat.ofDigitChars 10 whole 0 := by
  rw [ofDigits, Nat.ofDigitChars_append, Nat.ofDigitChars_eq_ofDigitChars_zero,
    Nat.mul_add_div (Nat.pow_pos (by decide)), Nat.div_eq_of_lt (ofDigitChars_lt all), Nat.add_zero]

def Same (a b : Decimal) : Prop := a.coefficient * 10 ^ b.places = b.coefficient * 10 ^ a.places

theorem Same.scaled {a b : Decimal} (same : a.Same b) (fewer : a.places ≤ b.places) :
    ∃ more, b = ⟨a.coefficient * 10 ^ more, a.places + more⟩ := by
  obtain ⟨c, p⟩ := b
  obtain ⟨more, rfl⟩ := Nat.exists_eq_add_of_le fewer
  rw [Same, Nat.pow_add, Nat.mul_comm (10 ^ a.places), ← Nat.mul_assoc] at same
  exact ⟨more, by rw [Nat.eq_of_mul_eq_mul_right a.scale_pos same]⟩

def pointed (whole : String) : List Char → String
  | [] => whole
  | digits => whole ++ "." ++ String.ofList digits

theorem text_eq_pointed (d : Decimal) : d.text = pointed (d.coefficient / 10 ^ d.places).repr d.fractionDigits := by
  unfold text
  cases d.fractionDigits with
  | nil => rfl
  | cons c cs => rfl

theorem text_ofDigits (whole : List Char) {fraction : List Char} (all : ∀ c ∈ fraction, c.isDigit = true) :
    (ofDigits whole fraction).text = pointed (Nat.ofDigitChars 10 whole 0).repr (fraction.rdropWhile (· == '0')) := by
  rw [text_eq_pointed, whole_ofDigits whole all, fractionDigits_ofDigits whole all]

theorem exists_ofDigits (d : Decimal) :
    ∃ whole fraction, (∀ c ∈ fraction, c.isDigit = true) ∧ d = ofDigits whole fraction := by
  by_cases none : d.places = 0
  · refine ⟨d.coefficient.repr.toList, [], List.forall_mem_nil _, ?_⟩
    rw [ofDigits, List.append_nil, ofDigitChars_repr, List.length_nil, ← none]
  · have small : d.coefficient % 10 ^ d.places < 10 ^ d.places := Nat.mod_lt _ d.scale_pos
    refine ⟨(d.coefficient / 10 ^ d.places).repr.toList, padded d.places (d.coefficient % 10 ^ d.places),
      padded_isDigit, ?_⟩
    rw [ofDigits, Nat.ofDigitChars_append, ofDigitChars_repr, Nat.ofDigitChars_eq_ofDigitChars_zero,
      ofDigitChars_padded, length_padded (Nat.pos_of_ne_zero none) small, Nat.div_add_mod]

theorem text_scaled (d : Decimal) (more : Nat) : text ⟨d.coefficient * 10 ^ more, d.places + more⟩ = d.text := by
  obtain ⟨whole, fraction, all, rfl⟩ := d.exists_ofDigits
  have form : ⟨(ofDigits whole fraction).coefficient * 10 ^ more, (ofDigits whole fraction).places + more⟩ =
      ofDigits whole (fraction ++ List.replicate more '0') := by
    rw [ofDigits, ofDigits, ← List.append_assoc, Nat.ofDigitChars_append _ (m := List.replicate more '0'),
      Nat.ofDigitChars_replicate_zero, Nat.mul_comm, List.length_append, List.length_replicate]
  have digits : ∀ c ∈ fraction ++ List.replicate more '0', c.isDigit = true := by
    intro c member
    rcases List.mem_append.mp member with member | member
    · exact all c member
    · rw [List.eq_of_mem_replicate member]
      rfl
  rw [form, text_ofDigits whole digits, text_ofDigits whole all, rdropWhile_append_zeros]

theorem Same.text_eq {a b : Decimal} (same : a.Same b) : a.text = b.text := by
  rcases Nat.le_total a.places b.places with fewer | fewer
  · obtain ⟨more, rfl⟩ := same.scaled fewer
    exact (a.text_scaled more).symm
  · obtain ⟨more, rfl⟩ := Same.scaled same.symm fewer
    exact b.text_scaled more

end Decimal

theorem Magnitude.ofDecimal_same {a b : Decimal} (same : a.Same b) : ofDecimal a = ofDecimal b := by
  have left := nearest_mul_mul_right (a.coefficient * 2 ^ binaryPlaces) (10 ^ a.places) b.scale_pos
  have right := nearest_mul_mul_right (b.coefficient * 2 ^ binaryPlaces) (10 ^ b.places) a.scale_pos
  rw [Nat.mul_right_comm, same, Nat.mul_right_comm, Nat.mul_comm (10 ^ a.places), right] at left
  rw [ofDecimal, ofDecimal, left]

end Reckon
