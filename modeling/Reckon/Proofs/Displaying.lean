import Mathlib.Data.Nat.Factorization.Basic
import Reckon.Proofs.Rerunning
import Reckon.Proofs.ShortDecimals

namespace Reckon

namespace Decimal

def Moderate (d : Decimal) : Prop :=
  d.coefficient = 0 ∨ (10 ^ d.places ≤ d.coefficient * 10 ^ 300 ∧ d.coefficient ≤ 10 ^ 300 * 10 ^ d.places)

variable {d : Decimal}

theorem text_shown (finite : (Magnitude.ofDecimal d).isInfinite = false)
    (rounded : Magnitude.ofDecimal ((Magnitude.ofDecimal d).toDecimal.rounded 15) = .ofDecimal d)
    (same : d.Same (Magnitude.ofDecimal d).shortest) : (Value.number (.ofDecimal d)).resultText = d.text := by
  have kept : (Number.ofDecimal d).rounded Value.shownDigits = .ofDecimal d := by
    simp only [Number.ofDecimal, Number.rounded, finite, Bool.false_eq_true, ↓reduceIte, Value.shownDigits, rounded]
  rw [Value.resultText, kept, same.text_eq]
  simp only [Number.ofDecimal, Number.text, finite, Bool.false_eq_true, ↓reduceIte, String.empty_append]

theorem text_shown_of_zero (zero : d.coefficient = 0) : (Value.number (.ofDecimal d)).resultText = d.text := by
  have same : d.Same ⟨0, 0⟩ := by rw [Same, zero, Nat.zero_mul, Nat.zero_mul]
  rw [same.text_eq, Number.ofDecimal, Magnitude.ofDecimal_same same]
  decide +kernel

theorem text_shown_of_short {digits zeros : Nat} (few : digits < 10 ^ 15)
    (split : d.coefficient = digits * 10 ^ zeros) (moderate : d.Moderate) :
    (Value.number (.ofDecimal d)).resultText = d.text := by
  rcases moderate with zero | ⟨low, high⟩
  · exact text_shown_of_zero zero
  · have some : digits ≠ 0 := by
      rintro rfl
      rw [split, Nat.zero_mul, Nat.zero_mul] at low
      exact Nat.not_lt.mpr low d.scale_pos
    obtain ⟨more, leading, last, form⟩ := Nat.exists_eq_pow_mul_and_not_dvd some 10 (by decide)
    have less : leading < 10 ^ 15 := Nat.lt_of_le_of_lt (form ▸ Nat.le_mul_of_pos_left _ (Nat.pow_pos (by decide))) few
    have again : d.coefficient = leading * 10 ^ (more + zeros) := by
      rw [split, form, Nat.pow_add, ← Nat.mul_assoc, Nat.mul_comm leading]
    obtain ⟨places, short, same⟩ := Magnitude.exists_short low high less again
    apply text_shown short.finite
    · rw [short.rounded_toDecimal, short.read]
    · rwa [short.shortest_eq last]

end Decimal

/-- A number literal: the digits before its point, and those after it, without which it has no point. -/
structure Numeral where
  whole : List Char
  fraction : List Char
  whole_ne_nil : whole ≠ []
  isDigit_whole : ∀ c ∈ whole, c.isDigit = true
  isDigit_fraction : ∀ c ∈ fraction, c.isDigit = true

namespace Numeral

def text (n : Numeral) : String := Decimal.pointed (String.ofList n.whole) n.fraction

def value (n : Numeral) : Decimal := .ofDigits n.whole n.fraction

def significant (n : Numeral) : List Char :=
  ((n.whole ++ n.fraction).dropWhile (· == '0')).rdropWhile (· == '0')

def plain (n : Numeral) : String :=
  Decimal.pointed (String.ofList (dropFirstZeros n.whole)) (n.fraction.rdropWhile (· == '0'))

variable (n : Numeral)

theorem lexeme_text : Lexeme n.text.toList (.number (.ofDecimal n.value)) := by
  obtain ⟨whole, fraction, some, all, allFraction⟩ := n
  cases fraction with
  | nil =>
    rw [text, Decimal.pointed, String.toList_ofList]
    exact .whole some all
  | cons c cs =>
    have point : (".").toList = ['.'] := rfl
    rw [text, Decimal.pointed, String.toList_append, String.toList_append, point, String.toList_ofList,
      String.toList_ofList, List.append_assoc, List.singleton_append]
    · exact .fraction some all (List.cons_ne_nil c cs) allFraction
    · exact List.cons_ne_nil c cs

theorem text_value : n.value.text = n.plain := by
  rw [value, Decimal.text_ofDigits n.whole n.isDigit_fraction, repr_eq_dropFirstZeros n.isDigit_whole, plain]

theorem isDigit_significant : ∀ c ∈ n.significant, c.isDigit = true := by
  intro c member
  obtain ⟨zeros, split⟩ := exists_zeros ((n.whole ++ n.fraction).dropWhile (· == '0'))
  have among : c ∈ n.whole ++ n.fraction :=
    (List.dropWhile_suffix _).subset (split ▸ List.mem_append_left _ member)
  rcases List.mem_append.mp among with member | member
  · exact n.isDigit_whole c member
  · exact n.isDigit_fraction c member

theorem coefficient_value : ∃ zeros, n.value.coefficient = Nat.ofDigitChars 10 n.significant 0 * 10 ^ zeros := by
  obtain ⟨zeros, split⟩ := exists_zeros ((n.whole ++ n.fraction).dropWhile (· == '0'))
  refine ⟨zeros, ?_⟩
  rw [value, Decimal.ofDigits, ← ofDigitChars_dropWhile, split, Nat.ofDigitChars_append,
    Nat.ofDigitChars_replicate_zero, Nat.mul_comm, significant]

theorem resultText_value (few : n.significant.length ≤ 15) (moderate : n.value.Moderate) :
    (Value.number (.ofDecimal n.value)).resultText = n.plain := by
  obtain ⟨zeros, split⟩ := n.coefficient_value
  have bound : Nat.ofDigitChars 10 n.significant 0 < 10 ^ 15 :=
    Nat.lt_of_lt_of_le (ofDigitChars_lt n.isDigit_significant) (Nat.pow_le_pow_right (by decide) few)
  rw [Decimal.text_shown_of_short bound split moderate, text_value]

def ofNat (k : Nat) : Numeral where
  whole := k.repr.toList
  fraction := []
  whole_ne_nil := by
    rw [Nat.toList_repr]
    exact Nat.toDigits_ne_nil
  isDigit_whole := Decimal.repr_isDigit k
  isDigit_fraction := List.forall_mem_nil _

theorem text_ofNat (k : Nat) : (ofNat k).text = k.repr := String.ofList_toList

theorem value_ofNat (k : Nat) : (ofNat k).value = ⟨k, 0⟩ := by
  have digits : Nat.ofDigitChars 10 (k.repr.toList ++ []) 0 = k := by rw [List.append_nil, ofDigitChars_repr]
  exact congrArg (Decimal.mk · 0) digits

theorem plain_ofNat (k : Nat) : (ofNat k).plain = k.repr := by
  have whole := repr_eq_dropFirstZeros (Decimal.repr_isDigit k)
  rw [ofDigitChars_repr] at whole
  exact whole.symm

theorem resultText_ofNat {k : Nat} (few : k < 10 ^ 15) :
    (Value.number (.ofDecimal (ofNat k).value)).resultText = k.repr := by
  have moderate : (ofNat k).value.Moderate := by
    rw [value_ofNat, Decimal.Moderate, Nat.pow_zero, Nat.mul_one]
    dsimp only
    omega
  have split : (ofNat k).value.coefficient = k * 10 ^ 0 := by rw [value_ofNat, Nat.pow_zero, Nat.mul_one]
  rw [Decimal.text_shown_of_short few split moderate, text_value, plain_ofNat]

end Numeral

namespace Run

variable {α : Type} (observe : Expr → α)

def Shows (source shown : String) : Prop :=
  ∃ x, (ofText observe source).result = .ok (.number x) ∧ (Value.number x).resultText = shown

theorem shows_numeral {n : Numeral} {shown : String}
    (text : (Value.number (.ofDecimal n.value)).resultText = shown) : Shows observe n.text shown := by
  refine ⟨.ofDecimal n.value, ?_, text⟩
  rw [ofText_literal (v := .number (.ofDecimal n.value)) n.lexeme_text]

/-- What is typed is what is shown, up to 15 digits. -/
theorem shows_as_typed :
    (∀ n : Numeral, n.significant.length ≤ 15 → n.value.Moderate → Shows observe n.text n.plain) ∧
      ∀ k : Nat, k < 10 ^ 15 → Shows observe k.repr k.repr := by
  constructor
  · intro n few moderate
    exact shows_numeral observe (n.resultText_value few moderate)
  · intro k few
    have shows := shows_numeral observe (Numeral.resultText_ofNat few)
    rwa [Numeral.text_ofNat] at shows

def twelveAndHalf : Numeral where
  whole := ['0', '0', '1', '2']
  fraction := ['5', '0']
  whole_ne_nil := by decide
  isDigit_whole := List.all_eq_true.mp rfl
  isDigit_fraction := List.all_eq_true.mp rfl

theorem twelveAndHalf_shows_as_typed :
    twelveAndHalf.significant.length ≤ 15 ∧ twelveAndHalf.value.Moderate ∧ Shows id "0012.50" "12.5" ∧
      999999999999999 < 10 ^ 15 ∧ Shows id "999999999999999" "999999999999999" := by
  have few : twelveAndHalf.significant.length ≤ 15 := by decide
  have moderate : twelveAndHalf.value.Moderate := .inr (by decide +kernel)
  have text : twelveAndHalf.text = "0012.50" := by decide
  have plain : twelveAndHalf.plain = "12.5" := by decide
  have less : 999999999999999 < 10 ^ 15 := by decide
  have repr : Nat.repr 999999999999999 = "999999999999999" := by decide +kernel
  have literal := (shows_as_typed id).1 twelveAndHalf few moderate
  have integer := (shows_as_typed id).2 999999999999999 less
  rw [text, plain] at literal
  rw [repr] at integer
  exact ⟨few, moderate, literal, less, integer⟩

end Run

end Reckon
