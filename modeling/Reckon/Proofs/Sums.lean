import Reckon.Expr.Evaluate
import Reckon.Proofs.Rejection

namespace Reckon

def Number.sum? : List Number → Option Number
  | [] => none
  | x :: rest => some (rest.foldl add x)

inductive Summand where
  | number (x : Number)
  | string (s : String)
deriving DecidableEq

namespace Summand

def value : Summand → Value
  | number x => .number x
  | string s => .string s

def text (a : Summand) : String := a.value.resultText

def leading : List Summand → List Number
  | number x :: rest => x :: leading rest
  | _ => []

def trailing : List Summand → List Summand
  | number _ :: rest => trailing rest
  | summands => summands

/-- What summands come to: the sum of the numbers if there is no string, else the text of the sum of those in front of
the first string, and behind it the texts of all from there on. -/
def total? (summands : List Summand) : Option Value :=
  let sum := (Number.sum? (leading summands)).map Value.number
  match trailing summands with
  | [] => sum
  | texts => some (.string (sum.elim "" Value.resultText ++ String.join (texts.map text)))

def plus : Summand → Summand → Summand
  | number x, number y => number (x.add y)
  | a, b => string (a.text ++ b.text)

theorem applyBinary_plus {operator : Token} (plus : operator.symbol = .mark .plus) (a b : Summand) :
    operator.applyBinary a.value b.value = .ok (a.plus b).value := by
  have added : Mark.addValues a.value b.value = .ok (a.plus b).value := by cases a <;> cases b <;> rfl
  rw [Token.applyBinary, plus]
  exact congrArg operator.answer added

theorem foldl_plus_string (s : String) (rest : List Summand) :
    rest.foldl plus (string s) = string (s ++ String.join (rest.map text)) := by
  induction rest generalizing s with
  | nil => simp
  | cons a rest ih =>
    have next : (string s).plus a = string (s ++ a.text) := by cases a <;> rfl
    rw [List.foldl_cons, next, ih, List.map_cons, String.join_cons, String.append_assoc]

theorem total?_eq_foldl (a : Summand) (rest : List Summand) : total? (a :: rest) = some (rest.foldl plus a).value := by
  have shown (s : String) : (string s).text = s := rfl
  cases a with
  | string s =>
    rw [foldl_plus_string]
    simp [total?, leading, trailing, Number.sum?, shown, value]
  | number x =>
    induction rest generalizing x with
    | nil => rfl
    | cons b rest ih =>
      cases b with
      | number y => exact ih (x.add y)
      | string s =>
        have next : (number x).plus (string s) = string ((Value.number x).resultText ++ s) := rfl
        rw [List.foldl_cons, next, foldl_plus_string]
        simp [total?, leading, trailing, Number.sum?, shown, value, String.append_assoc]

inductive Spelled : List Token → List Summand → Prop
  | one {operand : Token} {a : Summand} (same : operand.symbol = a.value.symbol) : Spelled [operand] [a]
  | more {tokens : List Token} {summands : List Summand} {operator operand : Token} {a : Summand}
      (before : Spelled tokens summands) (plus : operator.symbol = .mark .plus)
      (same : operand.symbol = a.value.symbol) : Spelled (tokens ++ [operator, operand]) (summands ++ [a])

theorem Spelled.tree {tokens : List Token} {summands : List Summand} (spelled : Spelled tokens summands) :
    ∃ (e : Expr) (a : Summand) (rest : List Summand), e.Spells 0 .addition tokens ∧ summands = a :: rest ∧
      e.value = .ok (rest.foldl plus a).value := by
  induction spelled with
  | @one operand a same =>
    exact ⟨.literal a.value, a, [], (Expr.Spells.literal same).loosen (by decide), rfl, rfl⟩
  | @more tokens summands operator operand b _ plus same ih =>
    obtain ⟨e, a, rest, spells, rfl, value⟩ := ih
    have found : operator.precedence? = some .addition := by rw [Token.precedence?, plus]; rfl
    have last : (Expr.literal b.value).Spells 0 Precedence.addition.tighter [operand] :=
      (Expr.Spells.literal same).loosen (by decide)
    refine ⟨.binary e operator (.literal b.value), a, rest ++ [b], spells.binary found last, rfl, ?_⟩
    rw [Expr.value, value, Expr.value, List.foldl_append]
    exact applyBinary_plus plus _ b

end Summand

namespace Expr

/-- Chains of numbers and strings with a plus between any two are parsed, and evaluated to what they come to. -/
theorem sums_evaluate {tokens : List Token} {summands : List Summand} (spelled : Summand.Spelled tokens summands)
    (lexeme : String) (line : Nat) : ∃ e v, ofTokens (tokens ++ [⟨.finish, lexeme, line⟩]) = .ok e ∧
      Summand.total? summands = some v ∧ e.evaluate = .ok v := by
  obtain ⟨e, a, rest, spells, rfl, value⟩ := spelled.tree
  have before : beforeFinish (tokens ++ [⟨.finish, lexeme, line⟩]) = tokens :=
    beforeFinish_append_finish (spells.reads.not_finish spells.bound) rfl []
  have shallow : e.nesting ≤ Parser.maxDepth := Nat.le_trans spells.shallow (Nat.zero_le _)
  have loosest : Precedence.equality.level ≤ e.precedence.level := Nat.le_trans (by decide) spells.tight
  refine ⟨e, (rest.foldl Summand.plus a).value, ofTokens_eq_ok_iff.mpr ?_, Summand.total?_eq_foldl a rest, ?_⟩
  · rw [before]
    exact ⟨spells.reads, spells.bound, loosest, shallow⟩
  · rw [evaluate_eq_value, value]

def tenthsAndText : List Token :=
  [⟨.number (.ofDecimal ⟨1, 1⟩), "0.1", 1⟩, ⟨.mark .plus, "+", 1⟩, ⟨.number (.ofDecimal ⟨2, 1⟩), "0.2", 1⟩,
    ⟨.mark .plus, "+", 1⟩, ⟨.string "a", "\"a\"", 2⟩, ⟨.mark .plus, "+", 2⟩, ⟨.number (.ofDecimal ⟨3, 0⟩), "3", 2⟩]

def tenthsAndTextSummands : List Summand :=
  [.number (.ofDecimal ⟨1, 1⟩), .number (.ofDecimal ⟨2, 1⟩), .string "a", .number (.ofDecimal ⟨3, 0⟩)]

theorem tenthsAndText_evaluate :
    Summand.Spelled tenthsAndText tenthsAndTextSummands ∧
      Summand.total? tenthsAndTextSummands = some (.string "0.3a3") ∧
      ∃ e v, ofTokens (tenthsAndText ++ [⟨.finish, "", 2⟩]) = .ok e ∧
        Summand.total? tenthsAndTextSummands = some v ∧ e.evaluate = .ok v := by
  have spelled : Summand.Spelled tenthsAndText tenthsAndTextSummands :=
    .more (.more (.more (.one rfl) rfl rfl) rfl rfl) rfl rfl
  exact ⟨spelled, by decide +kernel, sums_evaluate spelled "" 2⟩

end Expr

end Reckon
