import Mathlib.Data.List.DropRight
import Reckon.Number
import Reckon.Proofs.Lexemes

namespace Reckon

theorem exists_zeros (digits : List Char) :
    ∃ zeros, digits = digits.rdropWhile (· == '0') ++ List.replicate zeros '0' := by
  have zeros : ∀ c ∈ digits.rtakeWhile (· == '0'), c = '0' := by
    intro c member
    exact beq_iff_eq.mp (List.mem_rtakeWhile_imp (p := (· == '0')) member)
  refine ⟨(digits.rtakeWhile (· == '0')).length, ?_⟩
  rw [← List.eq_replicate_of_mem zeros, List.rdropWhile_append_rtakeWhile]

theorem ofDigitChars_repr (n : Nat) : Nat.ofDigitChars 10 n.repr.toList 0 = n := by
  rw [Nat.toList_repr, Nat.ofDigitChars_ten_toDigits]

namespace Decimal

theorem repr_isDigit (n : Nat) : ∀ c ∈ n.repr.toList, c.isDigit = true := by
  intro c member
  rw [Nat.toList_repr] at member
  exact Nat.isDigit_of_mem_toDigits (by decide) (by decide) member

theorem padded_isDigit {places n : Nat} : ∀ c ∈ padded places n, c.isDigit = true := by
  intro c member
  rcases List.mem_append.mp member with member | member
  · rw [List.eq_of_mem_replicate member]
    rfl
  · exact repr_isDigit n c member

theorem ofDigitChars_padded (places n : Nat) : Nat.ofDigitChars 10 (padded places n) 0 = n := by
  rw [padded, Nat.ofDigitChars_append, Nat.ofDigitChars_replicate_zero, Nat.mul_zero, ofDigitChars_repr]

theorem length_padded {places n : Nat} (some : 0 < places) (small : n < 10 ^ places) :
    (padded places n).length = places := by
  have short : n.repr.toList.length ≤ places := by
    rw [Nat.toList_repr]
    exact (Nat.length_toDigits_le_iff (by decide) some).mpr small
  simp only [padded, List.length_append, List.length_replicate]
  omega

theorem padded_eq_fractionDigits (d : Decimal) : ∃ zeros, padded d.places (d.coefficient % 10 ^ d.places) =
    d.fractionDigits ++ List.replicate zeros '0' := exists_zeros _

theorem fractionDigits_of_places_eq_zero {d : Decimal} (none : d.places = 0) : d.fractionDigits = [] := by
  rw [fractionDigits, none, Nat.pow_zero, Nat.mod_one]
  rfl

def reread (d : Decimal) : Decimal := ofDigits (d.coefficient / 10 ^ d.places).repr.toList d.fractionDigits

theorem reread_scaled (d : Decimal) : ∃ dropped,
    d.reread.coefficient * 10 ^ dropped = d.coefficient ∧ d.reread.places + dropped = d.places := by
  obtain ⟨zeros, split⟩ := d.padded_eq_fractionDigits
  have small : d.coefficient % 10 ^ d.places < 10 ^ d.places := Nat.mod_lt _ (Nat.pow_pos (by decide))
  have divided := Nat.div_add_mod d.coefficient (10 ^ d.places)
  have fraction : 10 ^ zeros * Nat.ofDigitChars 10 d.fractionDigits 0 = d.coefficient % 10 ^ d.places := by
    have value := ofDigitChars_padded d.places (d.coefficient % 10 ^ d.places)
    rw [split, Nat.ofDigitChars_append, Nat.ofDigitChars_replicate_zero] at value
    exact value
  have coefficient : d.reread.coefficient =
      10 ^ d.fractionDigits.length * (d.coefficient / 10 ^ d.places) + Nat.ofDigitChars 10 d.fractionDigits 0 := by
    rw [reread, ofDigits, Nat.ofDigitChars_append, ofDigitChars_repr,
      Nat.ofDigitChars_eq_ofDigitChars_zero]
  have digits : d.reread.places = d.fractionDigits.length := by rw [reread, ofDigits]
  by_cases none : d.fractionDigits = []
  · rw [none, Nat.ofDigitChars_nil, Nat.mul_zero] at fraction
    refine ⟨d.places, ?_, by rw [digits, none, List.length_nil, Nat.zero_add]⟩
    rw [coefficient, none, List.length_nil, Nat.pow_zero, Nat.one_mul, Nat.ofDigitChars_nil, Nat.add_zero,
      Nat.mul_comm]
    rw [← fraction, Nat.add_zero] at divided
    exact divided
  · have places : 0 < d.places := Nat.pos_of_ne_zero fun zero => none (fractionDigits_of_places_eq_zero zero)
    have length := length_padded places small
    rw [split, List.length_append, List.length_replicate] at length
    refine ⟨zeros, ?_, by rw [digits, length]⟩
    calc d.reread.coefficient * 10 ^ zeros
        = 10 ^ (d.fractionDigits.length + zeros) * (d.coefficient / 10 ^ d.places) +
            10 ^ zeros * Nat.ofDigitChars 10 d.fractionDigits 0 := by
          rw [coefficient, Nat.pow_add, Nat.add_mul, Nat.mul_right_comm, Nat.mul_comm (10 ^ zeros)]
      _ = d.coefficient := by rw [length, fraction, divided]

end Decimal

theorem Magnitude.ofDecimal_reread (d : Decimal) : ofDecimal d.reread = ofDecimal d := by
  obtain ⟨dropped, coefficient, places⟩ := d.reread_scaled
  have positive : 0 < 10 ^ dropped := Nat.pow_pos (by decide)
  have scaled := nearest_mul_mul_right (d.reread.coefficient * 2 ^ binaryPlaces) (10 ^ d.reread.places) positive
  rw [Nat.mul_right_comm, coefficient, ← Nat.pow_add, places] at scaled
  rw [ofDecimal, ofDecimal, scaled]

theorem Decimal.lexeme_text (d : Decimal) : Lexeme d.text.toList (.number (.ofDecimal d)) := by
  have some : (d.coefficient / 10 ^ d.places).repr.toList ≠ [] := by
    rw [Nat.toList_repr]
    exact Nat.toDigits_ne_nil
  have all := repr_isDigit (d.coefficient / 10 ^ d.places)
  have value : Number.ofDecimal d.reread = .ofDecimal d :=
    congrArg (Number.signed false) (Magnitude.ofDecimal_reread d)
  rw [← value, reread]
  unfold text
  split
  · rename_i none
    rw [none]
    exact .whole some all
  · rename_i more
    have digits : ∀ c ∈ d.fractionDigits, c.isDigit = true := by
      obtain ⟨zeros, split⟩ := d.padded_eq_fractionDigits
      intro c member
      exact padded_isDigit c (split ▸ List.mem_append_left _ member)
    have point : (".").toList = ['.'] := rfl
    rw [String.toList_append, String.toList_append, point, String.toList_ofList, List.append_assoc,
      List.singleton_append]
    exact .fraction some all more digits

theorem Number.lexeme_text {a : Magnitude} (finite : a.isInfinite = false) :
    Lexeme (signed false a).text.toList (.number (signed false a)) := by
  have written : (signed false a).text = a.shortest.text := by
    simp only [text, finite, Bool.false_eq_true, ↓reduceIte, String.empty_append]
  have read : Number.ofDecimal a.shortest = signed false a := congrArg (signed false) a.ofDecimal_shortest
  rw [written, ← read]
  exact a.shortest.lexeme_text

end Reckon
