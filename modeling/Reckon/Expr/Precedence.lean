import Reckon.Expr

namespace Reckon

inductive Precedence where
  | equality
  | comparison
  | addition
  | multiplication
  | unary
  | primary
deriving DecidableEq

namespace Precedence

def level : Precedence → Nat
  | equality => 1
  | comparison => 2
  | addition => 3
  | multiplication => 4
  | unary => 5
  | primary => 6

def tighter : Precedence → Precedence
  | equality => comparison
  | comparison => addition
  | addition => multiplication
  | multiplication => unary
  | unary => primary
  | primary => primary

def looseness (q : Precedence) : Nat := primary.level - q.level

theorem looseness_le (q : Precedence) : q.looseness ≤ 5 := by cases q <;> decide

theorem looseness_tighter {q : Precedence} (inner : q ≠ primary) : q.tighter.looseness < q.looseness := by
  cases q <;> first | contradiction | decide

end Precedence

def Mark.precedence? : Mark → Option Precedence
  | bangEqual | equalEqual => some .equality
  | greater | greaterEqual | less | lessEqual => some .comparison
  | minus | plus => some .addition
  | slash | star => some .multiplication
  | _ => none

def Precedence.operators : Precedence → List Mark
  | equality => [.bangEqual, .equalEqual]
  | comparison => [.greater, .greaterEqual, .less, .lessEqual]
  | addition => [.minus, .plus]
  | multiplication => [.slash, .star]
  | unary | primary => []

theorem Mark.precedence?_eq_some_iff {m : Mark} {q : Precedence} : m.precedence? = some q ↔ m ∈ q.operators := by
  cases m <;> cases q <;> decide

namespace Token

def precedence? (t : Token) : Option Precedence :=
  match t.symbol with
  | .mark m => m.precedence?
  | _ => none

def isPrefixOperator (t : Token) : Bool := t.symbol == .mark .bang || t.symbol == .mark .minus

theorem precedence?_eq_some_iff {t : Token} {q : Precedence} :
    t.precedence? = some q ↔ ∃ m ∈ q.operators, t.symbol = .mark m := by
  unfold precedence?
  cases symbol : t.symbol with
  | mark m => simp [Mark.precedence?_eq_some_iff]
  | _ => simp

theorem isPrefixOperator_iff {t : Token} :
    t.isPrefixOperator = true ↔ t.symbol = .mark .bang ∨ t.symbol = .mark .minus := by
  simp [isPrefixOperator]

theorem not_finish_of_literal? {t : Token} {v : Value} (found : t.literal? = some v) :
    t.isFinish = false := by
  unfold literal? at found
  split at found <;> simp_all [isFinish]

theorem not_finish_of_precedence? {t : Token} {q : Precedence} (found : t.precedence? = some q) :
    t.isFinish = false := by
  obtain ⟨m, -, symbol⟩ := precedence?_eq_some_iff.mp found
  simp [isFinish, symbol]

theorem not_finish_of_isPrefixOperator {t : Token} (found : t.isPrefixOperator = true) :
    t.isFinish = false := by
  rcases isPrefixOperator_iff.mp found with symbol | symbol <;> simp [isFinish, symbol]

end Token

/-- A binary operator outside the grammar binds like a product. -/
def Expr.precedence : Expr → Precedence
  | literal _ | group _ => .primary
  | unary _ _ => .unary
  | binary _ operator _ => operator.precedence?.getD .multiplication

theorem Expr.level_precedence (e : Expr) :
    e.precedence.level = match e with
      | literal _ | group _ => 6
      | unary _ _ => 5
      | binary _ operator _ =>
        match operator.symbol with
        | .mark .bangEqual | .mark .equalEqual => 1
        | .mark .greater | .mark .greaterEqual | .mark .less | .mark .lessEqual => 2
        | .mark .minus | .mark .plus => 3
        | _ => 4 := by
  cases e with
  | literal | group | unary => rfl
  | binary left operator right =>
    simp only [precedence, Token.precedence?]
    cases operator.symbol with
    | mark m => cases m <;> rfl
    | _ => rfl

end Reckon
