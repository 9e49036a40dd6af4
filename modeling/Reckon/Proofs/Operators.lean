import Mathlib.Control.Monad.Basic
import Reckon.Proofs.Failures
import Reckon.Proofs.Recognition

namespace Reckon

def RuntimeFault.marks : RuntimeFault → List Mark
  | operandMustBeNumber => [.minus, .star, .slash, .greater, .greaterEqual, .less, .lessEqual]
  | divisionByZero => [.slash]
  | invalidAddOperands => [.plus]
  | unsupportedOperator => []

namespace Mark

variable {m : Mark} {v w : Value} {fault : RuntimeFault}

theorem fault_of_onNumbers {f : Number → Number → Except RuntimeFault Value}
    (met : onNumbers f v w = .error fault) : fault = .operandMustBeNumber ∨ ∃ x y, f x y = .error fault := by
  unfold onNumbers at met
  split at met
  · exact .inr ⟨_, _, met⟩
  · cases met
    exact .inl rfl

theorem fault_of_addValues (met : addValues v w = .error fault) : fault = .invalidAddOperands := by
  unfold addValues at met
  split at met <;> cases met
  rfl

theorem mem_marks_of_applyUnary (known : m = .bang ∨ m = .minus) (met : m.applyUnary v = .error fault) :
    m ∈ fault.marks := by
  rcases known with rfl | rfl
  · cases met
  · cases v <;> cases met
    all_goals decide

theorem mem_marks_of_applyBinary (known : m.precedence?.isSome = true) (met : m.applyBinary v w = .error fault) :
    m ∈ fault.marks := by
  cases m
  case plus =>
    rw [fault_of_addValues met]
    decide
  case slash =>
    rcases fault_of_onNumbers met with rfl | ⟨x, y, divided⟩
    · decide
    · split at divided <;> cases divided
      decide
  case minus | star | greater | greaterEqual | less | lessEqual =>
    rcases fault_of_onNumbers met with rfl | ⟨x, y, done⟩
    · decide
    · cases done
  case equalEqual | bangEqual => cases met
  all_goals cases known

theorem applyBinary_of_unknown (unknown : m.precedence? = none) :
    m.applyBinary v w = .error .unsupportedOperator := by
  cases m
  case leftParen | rightParen | leftBrace | rightBrace | comma | dot | semicolon | bang | equal => rfl
  all_goals cases unknown

end Mark

namespace Token

variable {t : Token} {v w : Value} {fault : RuntimeFault}

theorem met_by_prefix (stands : t.isPrefixOperator = true) (met : t.symbol.applyUnary v = .error fault) :
    ∃ m ∈ fault.marks, t.symbol = .mark m := by
  rcases isPrefixOperator_iff.mp stands with symbol | symbol
  · rw [symbol] at met
    exact ⟨_, Mark.mem_marks_of_applyUnary (.inl rfl) met, symbol⟩
  · rw [symbol] at met
    exact ⟨_, Mark.mem_marks_of_applyUnary (.inr rfl) met, symbol⟩

theorem met_by_operator (known : t.precedence?.isSome = true) (met : t.symbol.applyBinary v w = .error fault) :
    ∃ m ∈ fault.marks, t.symbol = .mark m := by
  obtain ⟨q, found⟩ := Option.isSome_iff_exists.mp known
  obtain ⟨m, member, symbol⟩ := precedence?_eq_some_iff.mp found
  have binary := Option.isSome_of_eq_some (Mark.precedence?_eq_some_iff.mpr member)
  rw [symbol] at met
  exact ⟨m, Mark.mem_marks_of_applyBinary binary met, symbol⟩

/-- The tokens that the grammar has in front of an operand are those that have a meaning there. -/
theorem isPrefixOperator_iff_supported (t : Token) (v : Value) :
    t.isPrefixOperator = true ↔ t.symbol.applyUnary v ≠ .error .unsupportedOperator := by
  constructor
  · intro stands unsupported
    obtain ⟨m, member, -⟩ := met_by_prefix stands unsupported
    cases member
  · unfold isPrefixOperator
    intro supported
    cases symbol : t.symbol with
    | mark m =>
      rw [symbol] at supported
      cases m
      case bang | minus => rfl
      all_goals exact absurd rfl supported
    | _ => exact absurd (by rw [symbol]; rfl) supported

theorem precedence?_isSome_iff_supported (t : Token) (v w : Value) :
    t.precedence?.isSome = true ↔ t.symbol.applyBinary v w ≠ .error .unsupportedOperator := by
  constructor
  · intro known unsupported
    obtain ⟨m, member, -⟩ := met_by_operator known unsupported
    cases member
  · intro supported
    unfold precedence?
    cases symbol : t.symbol with
    | mark m =>
      cases unknown : m.precedence? with
      | some q => exact congrArg Option.isSome unknown
      | none => exact absurd (by rw [symbol]; exact Mark.applyBinary_of_unknown unknown) supported
    | _ => exact absurd (by rw [symbol]; rfl) supported

end Token

namespace Expr

theorem Fails.fits {e : Expr} {failure : Failure} {tokens : List Token} (fails : Fails .values e failure)
    (reads : e.Reads tokens) (bound : e.Bound) :
    failure.operator ∈ tokens ∧ ∃ m ∈ failure.fault.marks, failure.operator.symbol = .mark m := by
  induction fails generalizing tokens with
  | group _ ih =>
    cases reads with
    | group _ _ inner =>
      obtain ⟨member, fits⟩ := ih inner bound
      exact ⟨List.mem_cons_of_mem _ (List.mem_append_left _ member), fits⟩
  | operand _ ih =>
    cases reads with
    | unary operand =>
      obtain ⟨member, fits⟩ := ih operand bound.2.2
      exact ⟨List.mem_cons_of_mem _ member, fits⟩
  | unary _ met =>
    cases reads with
    | unary operand => exact ⟨List.mem_cons_self, Token.met_by_prefix bound.1 met⟩
  | left _ ih =>
    obtain ⟨q, -, -, -, boundLeft, -⟩ := bound
    cases reads with
    | binary readsLeft =>
      obtain ⟨member, fits⟩ := ih readsLeft boundLeft
      exact ⟨List.mem_append_left _ member, fits⟩
  | right _ _ ih =>
    obtain ⟨q, -, -, -, -, boundRight⟩ := bound
    cases reads with
    | binary _ readsRight =>
      obtain ⟨member, fits⟩ := ih readsRight boundRight
      exact ⟨List.mem_append_right _ (List.mem_cons_of_mem _ member), fits⟩
  | binary _ _ met =>
    obtain ⟨q, found, -⟩ := bound
    cases reads with
    | binary =>
      have known := Option.isSome_iff_exists.mpr ⟨q, found⟩
      exact ⟨List.mem_append_right _ List.mem_cons_self, Token.met_by_operator known met⟩

/-- A parsed expression never has an operator without a meaning. If its evaluation fails, then at an operator that is
a token in front of the first end, and whose mark can meet the fault. -/
theorem ofTokens_operators_supported {tokens : List Token} {e : Expr} {err : RuntimeError}
    (parsed : ofTokens tokens = .ok e) (failed : e.evaluate = .error err) :
    err.fault ≠ .unsupportedOperator ∧
      ∃ path, ∃ t ∈ beforeFinish tokens, e.operatorAt? path = some t ∧ err.line = t.line ∧ err.operator = t.lexeme ∧
        ∃ m ∈ err.fault.marks, t.symbol = .mark m := by
  rw [evaluate_eq_outcome] at failed
  obtain ⟨failure, outcome, rfl⟩ := mapError_eq_error_iff.mp failed
  have fails := fails_of_outcome outcome
  have spells := ofTokens_eq_ok_iff.mp parsed
  obtain ⟨member, m, met, symbol⟩ := fails.fits spells.reads spells.bound
  refine ⟨?_, failure.path, failure.operator, member, fails.operatorAt, rfl, rfl, m, met, symbol⟩
  intro unsupported
  rw [show failure.fault = .unsupportedOperator from unsupported] at met
  cases met

def truthAdded : List Token :=
  [⟨.number (.ofDecimal ⟨1, 0⟩), "1", 1⟩, ⟨.mark .equalEqual, "==", 1⟩, ⟨.mark .leftParen, "(", 2⟩,
    ⟨.keyword .true, "true", 2⟩, ⟨.mark .plus, "+", 3⟩, ⟨.mark .minus, "-", 3⟩,
    ⟨.number (.ofDecimal ⟨2, 0⟩), "2", 3⟩, ⟨.mark .rightParen, ")", 3⟩, .finish 3, ⟨.mark .slash, "/", 4⟩]

def truthAddedTree : Expr :=
  .binary (.literal (.number (.ofDecimal ⟨1, 0⟩))) ⟨.mark .equalEqual, "==", 1⟩
    (.group (.binary (.literal (.boolean true)) ⟨.mark .plus, "+", 3⟩
      (.unary ⟨.mark .minus, "-", 3⟩ (.literal (.number (.ofDecimal ⟨2, 0⟩))))))

theorem truthAdded_operators_supported : ofTokens truthAdded = .ok truthAddedTree ∧
    truthAddedTree.evaluate = .error ⟨.invalidAddOperands, 3, "+"⟩ ∧
      ∃ path, ∃ t ∈ beforeFinish truthAdded, truthAddedTree.operatorAt? path = some t ∧ 3 = t.line ∧
        "+" = t.lexeme ∧ ∃ m ∈ RuntimeFault.invalidAddOperands.marks, t.symbol = .mark m := by
  have parsed : ofTokens truthAdded = .ok truthAddedTree := by decide +kernel
  have failed : truthAddedTree.evaluate = .error ⟨.invalidAddOperands, 3, "+"⟩ := by decide +kernel
  exact ⟨parsed, failed, (ofTokens_operators_supported parsed failed).2⟩

end Expr

end Reckon
