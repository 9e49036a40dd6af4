import Mathlib.Control.Monad.Basic
import Reckon.Expr.Evaluate

namespace Reckon

theorem mapError_eq_ok_iff {α ε δ : Type} {f : ε → δ} {answer : Except ε α} {a : α} :
    answer.mapError f = .ok a ↔ answer = .ok a := by
  cases answer <;> simp [Except.mapError]

theorem mapError_eq_error_iff {α ε δ : Type} {f : ε → δ} {answer : Except ε α} {d : δ} :
    answer.mapError f = .error d ↔ ∃ err, answer = .error err ∧ f err = d := by
  cases answer <;> simp [Except.mapError]

inductive Side where
  | only
  | left
  | right
deriving DecidableEq

structure Failure where
  path : List Side
  operator : Token
  fault : RuntimeFault
deriving DecidableEq

namespace Failure

def here (operator : Token) (fault : RuntimeFault) : Failure := ⟨[], operator, fault⟩

def below (side : Side) (failure : Failure) : Failure := { failure with path := side :: failure.path }

def error (failure : Failure) : RuntimeError := ⟨failure.fault, failure.operator.line, failure.operator.lexeme⟩

def reworded (f : Token → Token) (failure : Failure) : Failure :=
  { failure with operator := f failure.operator }

end Failure

namespace Symbol

def applyUnary : Symbol → Value → Except RuntimeFault Value
  | mark m, v => m.applyUnary v
  | _, _ => .error .unsupportedOperator

def applyBinary : Symbol → Value → Value → Except RuntimeFault Value
  | mark m, v, w => m.applyBinary v w
  | _, _, _ => .error .unsupportedOperator

end Symbol

theorem Token.applyUnary_eq (operator : Token) (v : Value) :
    operator.applyUnary v = (operator.symbol.applyUnary v).mapError fun fault => (Failure.here operator fault).error := by
  rw [applyUnary]
  cases operator.symbol <;> rfl

theorem Token.applyBinary_eq (operator : Token) (v w : Value) :
    operator.applyBinary v w =
      (operator.symbol.applyBinary v w).mapError fun fault => (Failure.here operator fault).error := by
  rw [applyBinary]
  cases operator.symbol <;> rfl

/-- What stands for a literal, and what operators do with what stands for values. -/
structure Interpretation (α : Type) where
  literal : Value → α
  unary : Symbol → α → Except RuntimeFault α
  binary : Symbol → α → α → Except RuntimeFault α

def Interpretation.values : Interpretation Value := ⟨id, Symbol.applyUnary, Symbol.applyBinary⟩

namespace Expr

variable {α : Type}

def outcome (i : Interpretation α) : Expr → Except Failure α
  | literal v => .ok (i.literal v)
  | group inner => (inner.outcome i).mapError (.below .only)
  | unary operator operand =>
    ((operand.outcome i).mapError (.below .only)).bind fun a =>
      (i.unary operator.symbol a).mapError (.here operator)
  | binary left operator right =>
    ((left.outcome i).mapError (.below .left)).bind fun a =>
      ((right.outcome i).mapError (.below .right)).bind fun b =>
        (i.binary operator.symbol a b).mapError (.here operator)

theorem value_eq_outcome (e : Expr) : e.value = (e.outcome .values).mapError Failure.error := by
  induction e with
  | literal v => rfl
  | group inner ih =>
    rw [value, ih, outcome]
    cases inner.outcome .values <;> rfl
  | unary operator operand ih =>
    rw [value, ih, outcome]
    cases operand.outcome .values with
    | error failure => rfl
    | ok v =>
      refine (operator.applyUnary_eq v).trans ?_
      show _ = ((operator.symbol.applyUnary v).mapError (Failure.here operator)).mapError Failure.error
      cases operator.symbol.applyUnary v <;> rfl
  | binary left operator right ihLeft ihRight =>
    rw [value, ihLeft, ihRight, outcome]
    cases left.outcome .values with
    | error failure => rfl
    | ok v =>
      cases right.outcome .values with
      | error failure => rfl
      | ok w =>
        refine (operator.applyBinary_eq v w).trans ?_
        show _ = ((operator.symbol.applyBinary v w).mapError (Failure.here operator)).mapError Failure.error
        cases operator.symbol.applyBinary v w <;> rfl

theorem evaluate_eq_outcome (e : Expr) : e.evaluate = (e.outcome .values).mapError Failure.error := by
  rw [evaluate_eq_value, value_eq_outcome]

/-- All ways in which an evaluation can fail. -/
inductive Fails (i : Interpretation α) : Expr → Failure → Prop
  | group {inner : Expr} {failure : Failure} (inside : Fails i inner failure) :
      Fails i (.group inner) (failure.below .only)
  | operand {operator : Token} {operand : Expr} {failure : Failure} (inside : Fails i operand failure) :
      Fails i (.unary operator operand) (failure.below .only)
  | unary {operator : Token} {operand : Expr} {a : α} {fault : RuntimeFault} (value : operand.outcome i = .ok a)
      (met : i.unary operator.symbol a = .error fault) : Fails i (.unary operator operand) (.here operator fault)
  | left {left right : Expr} {operator : Token} {failure : Failure} (inside : Fails i left failure) :
      Fails i (.binary left operator right) (failure.below .left)
  | right {left right : Expr} {operator : Token} {a : α} {failure : Failure} (first : left.outcome i = .ok a)
      (inside : Fails i right failure) : Fails i (.binary left operator right) (failure.below .right)
  | binary {left right : Expr} {operator : Token} {a b : α} {fault : RuntimeFault} (first : left.outcome i = .ok a)
      (second : right.outcome i = .ok b) (met : i.binary operator.symbol a b = .error fault) :
      Fails i (.binary left operator right) (.here operator fault)

theorem below_bind_eq_error_iff {answer : Except Failure α} {side : Side} {rest : α → Except Failure α}
    {failure : Failure} : (answer.mapError (.below side)).bind rest = .error failure ↔
      (∃ deeper, answer = .error deeper ∧ deeper.below side = failure) ∨
        ∃ a, answer = .ok a ∧ rest a = .error failure := by
  cases answer <;> simp [Except.mapError, Except.bind]

theorem fails_of_outcome {i : Interpretation α} {e : Expr} {failure : Failure}
    (failed : e.outcome i = .error failure) : Fails i e failure := by
  induction e generalizing failure with
  | literal v => cases failed
  | group inner ih =>
    obtain ⟨deeper, inside, rfl⟩ := mapError_eq_error_iff.mp failed
    exact .group (ih inside)
  | unary operator operand ih =>
    rcases below_bind_eq_error_iff.mp failed with ⟨deeper, inside, rfl⟩ | ⟨a, value, failed⟩
    · exact .operand (ih inside)
    · obtain ⟨fault, met, rfl⟩ := mapError_eq_error_iff.mp failed
      exact .unary value met
  | binary left operator right ihLeft ihRight =>
    rcases below_bind_eq_error_iff.mp failed with ⟨deeper, inside, rfl⟩ | ⟨a, first, failed⟩
    · exact .left (ihLeft inside)
    · rcases below_bind_eq_error_iff.mp failed with ⟨deeper, inside, rfl⟩ | ⟨b, second, failed⟩
      · exact .right first (ihRight inside)
      · obtain ⟨fault, met, rfl⟩ := mapError_eq_error_iff.mp failed
        exact .binary first second met

def operatorAt? : Expr → List Side → Option Token
  | unary operator _, [] | binary _ operator _, [] => some operator
  | group inner, .only :: path => inner.operatorAt? path
  | unary _ operand, .only :: path => operand.operatorAt? path
  | binary left _ _, .left :: path => left.operatorAt? path
  | binary _ _ right, .right :: path => right.operatorAt? path
  | _, _ => none

theorem Fails.operatorAt {i : Interpretation α} {e : Expr} {failure : Failure} (fails : Fails i e failure) :
    e.operatorAt? failure.path = some failure.operator := by
  induction fails with
  | unary => rfl
  | binary => rfl
  | group _ ih => exact ih
  | operand _ ih => exact ih
  | left _ ih => exact ih
  | right _ _ ih => exact ih

def reworded (f : Token → Token) : Expr → Expr
  | literal v => literal v
  | group inner => group (inner.reworded f)
  | unary operator operand => unary (f operator) (operand.reworded f)
  | binary left operator right => binary (left.reworded f) (f operator) (right.reworded f)

theorem outcome_reworded (i : Interpretation α) {f : Token → Token} (keeps : ∀ t, (f t).symbol = t.symbol)
    (e : Expr) : (e.reworded f).outcome i = (e.outcome i).mapError (Failure.reworded f) := by
  induction e with
  | literal v => rfl
  | group inner ih =>
    rw [reworded, outcome, ih, outcome]
    cases inner.outcome i <;> rfl
  | unary operator operand ih =>
    rw [reworded, outcome, ih, outcome]
    cases operand.outcome i with
    | error failure => rfl
    | ok a =>
      simp only [Except.mapError, Except.bind, keeps]
      cases i.unary operator.symbol a <;> rfl
  | binary left operator right ihLeft ihRight =>
    rw [reworded, outcome, ihLeft, ihRight, outcome]
    cases left.outcome i with
    | error failure => rfl
    | ok a =>
      cases right.outcome i with
      | error failure => rfl
      | ok b =>
        simp only [Except.mapError, Except.bind, keeps]
        cases i.binary operator.symbol a b <;> rfl

end Expr

end Reckon
