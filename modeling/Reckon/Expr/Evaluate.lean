import Reckon.Expr

namespace Reckon

inductive RuntimeFault where
  | operandMustBeNumber
  | divisionByZero
  | invalidAddOperands
  | unsupportedOperator
deriving DecidableEq

def RuntimeFault.message : RuntimeFault → String
  | operandMustBeNumber => "Operand must be a number."
  | divisionByZero => "RHS operand must not be 0."
  | invalidAddOperands => "Operands must be two numbers or two strings."
  | unsupportedOperator => "Unsupported operator."

structure RuntimeError where
  fault : RuntimeFault
  line : Nat
  operator : String
deriving DecidableEq

def RuntimeError.diagnostic (e : RuntimeError) : Diagnostic :=
  ⟨.evaluation, e.line, .lexeme e.operator, e.fault.message⟩

namespace Mark

def applyUnary : Mark → Value → Except RuntimeFault Value
  | minus, .number x => .ok (.number x.neg)
  | minus, _ => .error .operandMustBeNumber
  | bang, v => .ok (.boolean (!v.isTruthy))
  | _, _ => .error .unsupportedOperator

def onNumbers (f : Number → Number → Except RuntimeFault Value) : Value → Value → Except RuntimeFault Value
  | .number x, .number y => f x y
  | _, _ => .error .operandMustBeNumber

/-- Numbers are added, and a string takes on a string or the text of a number on either side. -/
def addValues : Value → Value → Except RuntimeFault Value
  | .number x, .number y => .ok (.number (x.add y))
  | .string s, .string t => .ok (.string (s ++ t))
  | .string s, .number y => .ok (.string (s ++ (Value.number y).resultText))
  | .number x, .string t => .ok (.string ((Value.number x).resultText ++ t))
  | _, _ => .error .invalidAddOperands

def applyBinary : Mark → Value → Value → Except RuntimeFault Value
  | minus => onNumbers fun x y => .ok (.number (x.sub y))
  | star => onNumbers fun x y => .ok (.number (x.mul y))
  | slash => onNumbers fun x y => if y.isZero then .error .divisionByZero else .ok (.number (x.div y))
  | plus => addValues
  | greater => onNumbers fun x y => .ok (.boolean (y.less x))
  | greaterEqual => onNumbers fun x y => .ok (.boolean (y.lessEqual x))
  | less => onNumbers fun x y => .ok (.boolean (x.less y))
  | lessEqual => onNumbers fun x y => .ok (.boolean (x.lessEqual y))
  | equalEqual => fun v w => .ok (.boolean (v.equals w))
  | bangEqual => fun v w => .ok (.boolean (!v.equals w))
  | _ => fun _ _ => .error .unsupportedOperator

end Mark

namespace Token

def answer (operator : Token) : Except RuntimeFault Value → Except RuntimeError Value :=
  Except.mapError fun fault => ⟨fault, operator.line, operator.lexeme⟩

def applyUnary (operator : Token) (v : Value) : Except RuntimeError Value :=
  operator.answer <| match operator.symbol with
    | .mark m => m.applyUnary v
    | _ => .error .unsupportedOperator

def applyBinary (operator : Token) (v w : Value) : Except RuntimeError Value :=
  operator.answer <| match operator.symbol with
    | .mark m => m.applyBinary v w
    | _ => .error .unsupportedOperator

end Token

def Expr.value : Expr → Except RuntimeError Value
  | literal v => .ok v
  | group inner => inner.value
  | unary operator operand => operand.value.bind operator.applyUnary
  | binary left operator right => left.value.bind fun v => right.value.bind fun w => operator.applyBinary v w

namespace Machine

inductive Step where
  | evaluate (e : Expr)
  | unary (operator : Token)
  | binary (operator : Token)

def Step.cost : Step → Nat
  | evaluate e => 2 * e.size
  | unary _ => 1
  | binary _ => 1

def Step.work : List Step → Nat
  | [] => 0
  | step :: rest => step.cost + work rest

/-- Carries out all steps. Operators take their operands from the top of the values, the right one first;
there is no answer if too few are left. -/
def run : List Step → List Value → Option (Except RuntimeError Value)
  | [], [v] => some (.ok v)
  | .evaluate (.literal v) :: steps, values => run steps (v :: values)
  | .evaluate (.group inner) :: steps, values => run (.evaluate inner :: steps) values
  | .evaluate (.unary operator operand) :: steps, values =>
    run (.evaluate operand :: .unary operator :: steps) values
  | .evaluate (.binary left operator right) :: steps, values =>
    run (.evaluate left :: .evaluate right :: .binary operator :: steps) values
  | .unary operator :: steps, v :: values =>
    match operator.applyUnary v with
    | .ok w => run steps (w :: values)
    | .error e => some (.error e)
  | .binary operator :: steps, w :: v :: values =>
    match operator.applyBinary v w with
    | .ok x => run steps (x :: values)
    | .error e => some (.error e)
  | _, _ => none
termination_by steps => Step.work steps
decreasing_by all_goals simp [Step.work, Step.cost, Expr.size] <;> omega

theorem run_evaluate (e : Expr) (steps : List Step) (values : List Value) :
    run (.evaluate e :: steps) values =
      match e.value with
      | .ok v => run steps (v :: values)
      | .error err => some (.error err) := by
  induction e generalizing steps values with
  | literal v => rw [run, Expr.value]
  | group inner ih => rw [run, ih, Expr.value]
  | unary operator operand ih =>
    rw [run, ih, Expr.value]
    cases operand.value with
    | error err => rfl
    | ok v => simp only [Except.bind, run]
  | binary left operator right ihLeft ihRight =>
    rw [run, ihLeft, Expr.value]
    cases left.value with
    | error err => rfl
    | ok v =>
      simp only [Except.bind]
      rw [ihRight]
      cases right.value with
      | error err => rfl
      | ok w => simp only [run]

theorem run_evaluate_alone (e : Expr) : run [.evaluate e] [] = some e.value := by
  rw [run_evaluate]
  cases e.value with
  | error err => rfl
  | ok v => simp only [run]

end Machine

def Expr.evaluate (e : Expr) : Except RuntimeError Value :=
  (Machine.run [.evaluate e] []).get (by rw [Machine.run_evaluate_alone]; rfl)

theorem Expr.evaluate_eq_value (e : Expr) : e.evaluate = e.value := by
  simp [evaluate, Machine.run_evaluate_alone]

end Reckon
