import Mathlib.Control.Monad.Basic
import Reckon.Proofs.Failures

namespace Reckon

inductive Kind where
  | number
  | string
  | boolean
  | nil
deriving DecidableEq

def Value.kind : Value → Kind
  | number _ => .number
  | string _ => .string
  | boolean _ => .boolean
  | nil => .nil

namespace Mark

def unaryKind : Mark → Kind → Except RuntimeFault Kind
  | minus, .number => .ok .number
  | minus, _ => .error .operandMustBeNumber
  | bang, _ => .ok .boolean
  | _, _ => .error .unsupportedOperator

def numbersKind (kind : Kind) : Kind → Kind → Except RuntimeFault Kind
  | .number, .number => .ok kind
  | _, _ => .error .operandMustBeNumber

def sumKind : Kind → Kind → Except RuntimeFault Kind
  | .number, .number => .ok .number
  | .string, .string | .string, .number | .number, .string => .ok .string
  | _, _ => .error .invalidAddOperands

def binaryKind : Mark → Kind → Kind → Except RuntimeFault Kind
  | minus | star | slash => numbersKind .number
  | plus => sumKind
  | greater | greaterEqual | less | lessEqual => numbersKind .boolean
  | equalEqual | bangEqual => fun _ _ => .ok .boolean
  | _ => fun _ _ => .error .unsupportedOperator

theorem kind_applyUnary (m : Mark) (v : Value) : (m.applyUnary v).map Value.kind = m.unaryKind v.kind := by
  cases m <;> cases v <;> rfl

theorem kind_onNumbers {f : Number → Number → Except RuntimeFault Value} {kind : Kind}
    (same : ∀ x y, (f x y).map Value.kind = .ok kind) (v w : Value) :
    (onNumbers f v w).map Value.kind = numbersKind kind v.kind w.kind := by
  cases v with
  | number x =>
    cases w with
    | number y => exact same x y
    | _ => rfl
  | _ => cases w <;> rfl

theorem kind_addValues (v w : Value) : (addValues v w).map Value.kind = sumKind v.kind w.kind := by
  cases v <;> cases w <;> rfl

-- The one place at which a payload decides more than a payload.
theorem kind_divide (v w : Value) : slash.applyBinary v w = .error .divisionByZero ∨
    (slash.applyBinary v w).map Value.kind = slash.binaryKind v.kind w.kind := by
  cases v with
  | number x =>
    cases w with
    | number y =>
      cases zero : y.isZero with
      | true =>
        left
        simp [applyBinary, onNumbers, zero]
      | false =>
        right
        simp [applyBinary, onNumbers, zero, binaryKind, numbersKind, Value.kind, Except.map]
    | _ => exact .inr rfl
  | _ => cases w <;> exact .inr rfl

theorem kind_applyBinary (m : Mark) (v w : Value) : m.applyBinary v w = .error .divisionByZero ∨
    (m.applyBinary v w).map Value.kind = m.binaryKind v.kind w.kind := by
  cases m
  case slash => exact kind_divide v w
  case plus => exact .inr (kind_addValues v w)
  case minus | star | greater | greaterEqual | less | lessEqual => exact .inr (kind_onNumbers (fun _ _ => rfl) v w)
  all_goals exact .inr rfl

end Mark

namespace Symbol

def unaryKind : Symbol → Kind → Except RuntimeFault Kind
  | mark m, kind => m.unaryKind kind
  | _, _ => .error .unsupportedOperator

def binaryKind : Symbol → Kind → Kind → Except RuntimeFault Kind
  | mark m, first, second => m.binaryKind first second
  | _, _, _ => .error .unsupportedOperator

theorem kind_applyUnary (s : Symbol) (v : Value) : (s.applyUnary v).map Value.kind = s.unaryKind v.kind := by
  cases s with
  | mark m => exact m.kind_applyUnary v
  | _ => rfl

theorem kind_applyBinary (s : Symbol) (v w : Value) : s.applyBinary v w = .error .divisionByZero ∨
    (s.applyBinary v w).map Value.kind = s.binaryKind v.kind w.kind := by
  cases s with
  | mark m => exact m.kind_applyBinary v w
  | _ => exact .inr rfl

end Symbol

def Interpretation.kinds : Interpretation Kind := ⟨Value.kind, Symbol.unaryKind, Symbol.binaryKind⟩

/-- Two evaluations end alike, with a value of the kind or in the same failure, unless the one for values divides by
zero. -/
def Tracks (values : Except Failure Value) (kinds : Except Failure Kind) : Prop :=
  (∃ failure, values = .error failure ∧ failure.fault = .divisionByZero) ∨ values.map Value.kind = kinds

namespace Tracks

variable {values : Except Failure Value} {kinds : Except Failure Kind}

theorem below (tracks : Tracks values kinds) (side : Side) :
    Tracks (values.mapError (.below side)) (kinds.mapError (.below side)) := by
  rcases tracks with ⟨failure, rfl, zero⟩ | rfl
  · exact .inl ⟨failure.below side, rfl, zero⟩
  · right
    cases values <;> rfl

theorem bind (tracks : Tracks values kinds) {f : Value → Except Failure Value} {g : Kind → Except Failure Kind}
    (more : ∀ v, Tracks (f v) (g v.kind)) : Tracks (values.bind f) (kinds.bind g) := by
  rcases tracks with ⟨failure, rfl, zero⟩ | rfl
  · exact .inl ⟨failure, rfl, zero⟩
  · cases values with
    | error failure => exact .inr rfl
    | ok v => exact more v

theorem here {answer : Except RuntimeFault Value} {kind : Except RuntimeFault Kind}
    (same : answer = .error .divisionByZero ∨ answer.map Value.kind = kind) (operator : Token) :
    Tracks (answer.mapError (.here operator)) (kind.mapError (.here operator)) := by
  rcases same with rfl | rfl
  · exact .inl ⟨.here operator .divisionByZero, rfl, rfl⟩
  · right
    cases answer <;> rfl

end Tracks

namespace Expr

theorem tracks_outcome (e : Expr) : Tracks (e.outcome .values) (e.outcome .kinds) := by
  induction e with
  | literal v => exact .inr rfl
  | group inner ih => exact ih.below .only
  | unary operator operand ih =>
    exact (ih.below .only).bind fun v => .here (.inr (operator.symbol.kind_applyUnary v)) operator
  | binary left operator right ihLeft ihRight =>
    exact (ihLeft.below .left).bind fun v => (ihRight.below .right).bind fun w =>
      .here (operator.symbol.kind_applyBinary v w) operator

inductive Alike : Expr → Expr → Prop
  | literal {v w : Value} (same : v.kind = w.kind) : Alike (.literal v) (.literal w)
  | group {a b : Expr} (inner : Alike a b) : Alike (.group a) (.group b)
  | unary (operator : Token) {a b : Expr} (operand : Alike a b) : Alike (.unary operator a) (.unary operator b)
  | binary (operator : Token) {a b c d : Expr} (left : Alike a b) (right : Alike c d) :
      Alike (.binary a operator c) (.binary b operator d)

theorem Alike.kinds {a b : Expr} (alike : Alike a b) : a.outcome .kinds = b.outcome .kinds := by
  induction alike with
  | literal same => exact congrArg Except.ok same
  | group _ ih => rw [outcome, ih, outcome]
  | unary operator _ ih => rw [outcome, ih, outcome]
  | binary operator _ _ ihLeft ihRight => rw [outcome, ihLeft, ihRight, outcome]

def NonZero (e : Expr) : Prop := ∀ err, e.evaluate = .error err → err.fault ≠ .divisionByZero

theorem NonZero.kinds {e : Expr} (nonzero : e.NonZero) : (e.outcome .values).map Value.kind = e.outcome .kinds := by
  rcases e.tracks_outcome with ⟨failure, failed, zero⟩ | same
  · have ended : e.evaluate = .error failure.error := by rw [evaluate_eq_outcome, failed]; rfl
    exact absurd zero (nonzero _ ended)
  · exact same

/-- Trees that differ in the payloads of literals only, and do not end in a division by zero, both come to a value of
one kind or fail both at the same operator for the same reason. -/
theorem alike_evaluate {a b : Expr} (alike : Alike a b) (nonzero : a.NonZero) (nonzeroOther : b.NonZero) :
    (∃ v w, a.evaluate = .ok v ∧ b.evaluate = .ok w ∧ v.kind = w.kind) ∨
      ∃ failure, a.outcome .values = .error failure ∧ b.outcome .values = .error failure ∧
        a.operatorAt? failure.path = some failure.operator ∧ b.operatorAt? failure.path = some failure.operator ∧
        a.evaluate = .error failure.error ∧ b.evaluate = .error failure.error := by
  have same : (a.outcome .values).map Value.kind = (b.outcome .values).map Value.kind := by
    rw [nonzero.kinds, alike.kinds, nonzeroOther.kinds]
  rw [evaluate_eq_outcome, evaluate_eq_outcome]
  cases first : a.outcome .values with
  | ok v =>
    cases second : b.outcome .values with
    | ok w =>
      rw [first, second] at same
      exact .inl ⟨v, w, rfl, rfl, Except.ok.inj same⟩
    | error failure =>
      rw [first, second] at same
      cases same
  | error failure =>
    cases second : b.outcome .values with
    | ok w =>
      rw [first, second] at same
      cases same
    | error other =>
      rw [first, second] at same
      cases same
      exact .inr ⟨failure, rfl, rfl, (fails_of_outcome first).operatorAt, (fails_of_outcome second).operatorAt, rfl, rfl⟩

/-- `-(x / y) < b + s` over three lines. -/
def fractionBelowSum (x y : Number) (b : Bool) (s : String) : Expr :=
  .binary
    (.unary ⟨.mark .minus, "-", 1⟩
      (.group (.binary (.literal (.number x)) ⟨.mark .slash, "/", 1⟩ (.literal (.number y)))))
    ⟨.mark .less, "<", 2⟩
    (.binary (.literal (.boolean b)) ⟨.mark .plus, "+", 3⟩ (.literal (.string s)))

theorem fractionBelowSum_alike :
    let one := fractionBelowSum (.ofDecimal ⟨1, 0⟩) (.ofDecimal ⟨25, 1⟩) true "ab"
    let other := fractionBelowSum .nan (.signed true .infinity) false ""
    Alike one other ∧ one.NonZero ∧ other.NonZero ∧
      ((∃ v w, one.evaluate = .ok v ∧ other.evaluate = .ok w ∧ v.kind = w.kind) ∨
        ∃ failure, one.outcome .values = .error failure ∧ other.outcome .values = .error failure ∧
          one.operatorAt? failure.path = some failure.operator ∧
          other.operatorAt? failure.path = some failure.operator ∧
          one.evaluate = .error failure.error ∧ other.evaluate = .error failure.error) := by
  intro one other
  have alike : Alike one other :=
    .binary _ (.unary _ (.group (.binary _ (.literal rfl) (.literal rfl)))) (.binary _ (.literal rfl) (.literal rfl))
  have first : one.evaluate = .error ⟨.invalidAddOperands, 3, "+"⟩ := by decide +kernel
  have second : other.evaluate = .error ⟨.invalidAddOperands, 3, "+"⟩ := by decide +kernel
  have nonzero : one.NonZero := by
    intro err failed
    rw [first] at failed
    cases failed
    decide
  have nonzeroOther : other.NonZero := by
    intro err failed
    rw [second] at failed
    cases failed
    decide
  exact ⟨alike, nonzero, nonzeroOther, alike_evaluate alike nonzero nonzeroOther⟩

end Expr

end Reckon
