import Reckon.Expr.Parser

namespace Reckon

theorem Precedence.compound_of_level_lt {q : Precedence} (loose : q.level < unary.level) :
    q ≠ unary ∧ q ≠ primary := by
  constructor <;> rintro rfl <;> exact absurd loose (by decide)

theorem Precedence.level_lt_of_compound {q : Precedence} (unprefixed : q ≠ unary) (compound : q ≠ primary) :
    q.level < unary.level := by
  cases q <;> first | decide | contradiction

theorem Token.ne_leftParen_of_literal? {t : Token} {v : Value} (denotes : t.literal? = some v) :
    t.symbol ≠ .mark .leftParen := by
  intro opens
  simp [literal?, opens] at denotes

namespace Parser

/-- What is to be read next: by a rule, or the rest of a chain after what stands left of it. -/
inductive Task where
  | rule (q : Precedence)
  | chain (q : Precedence) (left : Expr)

inductive Ends : Task → Parser → Except SyntaxFault Expr → Parser → Prop
  | prefixedDeep {p : Parser} (operator : p.peek.isPrefixOperator = true) (full : maxDepth ≤ p.depth) :
      Ends (.rule .unary) p (.error .tooDeeplyNested) p.advance
  | prefixedFault {p next : Parser} {fault : SyntaxFault} (operator : p.peek.isPrefixOperator = true)
      (room : p.depth < maxDepth) (operand : Ends (.rule .unary) p.advance.enter (.error fault) next) :
      Ends (.rule .unary) p (.error fault) next.leave
  | prefixed {p next : Parser} {e : Expr} (operator : p.peek.isPrefixOperator = true)
      (room : p.depth < maxDepth) (operand : Ends (.rule .unary) p.advance.enter (.ok e) next) :
      Ends (.rule .unary) p (.ok (.unary p.peek e)) next.leave
  | unprefixed {p next : Parser} {result : Except SyntaxFault Expr} (operand : p.peek.isPrefixOperator = false)
      (primary : Ends (.rule .primary) p result next) : Ends (.rule .unary) p result next
  | groupDeep {p : Parser} (opens : p.peek.symbol = .mark .leftParen) (full : maxDepth ≤ p.depth) :
      Ends (.rule .primary) p (.error .tooDeeplyNested) p.advance
  | groupFault {p next : Parser} {fault : SyntaxFault} (opens : p.peek.symbol = .mark .leftParen)
      (room : p.depth < maxDepth) (inner : Ends (.rule .equality) p.advance.enter (.error fault) next) :
      Ends (.rule .primary) p (.error fault) next.leave
  | group {p next : Parser} {e : Expr} (opens : p.peek.symbol = .mark .leftParen) (room : p.depth < maxDepth)
      (inner : Ends (.rule .equality) p.advance.enter (.ok e) next)
      (closes : next.leave.peek.symbol = .mark .rightParen) :
      Ends (.rule .primary) p (.ok (.group e)) next.leave.advance
  | unclosed {p next : Parser} {e : Expr} (opens : p.peek.symbol = .mark .leftParen)
      (room : p.depth < maxDepth) (inner : Ends (.rule .equality) p.advance.enter (.ok e) next)
      (unclosed : next.leave.peek.symbol ≠ .mark .rightParen) :
      Ends (.rule .primary) p (.error .missingRightParen) next.leave
  | literal {p : Parser} {v : Value} (denotes : p.peek.literal? = some v) :
      Ends (.rule .primary) p (.ok (.literal v)) p.advance
  | nothing {p : Parser} (unopened : p.peek.symbol ≠ .mark .leftParen) (denotes : p.peek.literal? = none) :
      Ends (.rule .primary) p (.error .expectedExpression) p
  | firstFault {q : Precedence} {p next : Parser} {fault : SyntaxFault} (loose : q.level < Precedence.unary.level)
      (first : Ends (.rule q.tighter) p (.error fault) next) : Ends (.rule q) p (.error fault) next
  | first {q : Precedence} {p middle next : Parser} {left : Expr} {result : Except SyntaxFault Expr}
      (loose : q.level < Precedence.unary.level) (first : Ends (.rule q.tighter) p (.ok left) middle)
      (more : Ends (.chain q left) middle result next) : Ends (.rule q) p result next
  | operandFault {q : Precedence} {p next : Parser} {left : Expr} {fault : SyntaxFault}
      (found : p.peek.precedence? = some q) (operand : Ends (.rule q.tighter) p.advance (.error fault) next) :
      Ends (.chain q left) p (.error fault) next
  | operand {q : Precedence} {p middle next : Parser} {left right : Expr} {result : Except SyntaxFault Expr}
      (found : p.peek.precedence? = some q) (operand : Ends (.rule q.tighter) p.advance (.ok right) middle)
      (more : Ends (.chain q (.binary left p.peek right)) middle result next) :
      Ends (.chain q left) p result next
  | finished {q : Precedence} {p : Parser} {left : Expr} (unfound : p.peek.precedence? ≠ some q) :
      Ends (.chain q left) p (.ok left) p

def Answers : Task → Parser → Except SyntaxFault Expr → Parser → Prop
  | .rule q, p, result, next => (rule q p).result = result ∧ (rule q p).next = next
  | .chain q left, p, result, next => ∀ (start : Parser) (bound : p.rest.length ≤ start.rest.length),
      (chain q left p start bound).result = result ∧ (chain q left p start bound).next = next

theorem Ends.answers {task : Task} {p next : Parser} {result : Except SyntaxFault Expr}
    (ends : Ends task p result next) : Answers task p result next := by
  induction ends with
  | prefixedDeep operator full =>
    rw [Answers, rule]
    simp [operator, full]
  | prefixedFault operator room _ ih | prefixed operator room _ ih =>
    rw [Answers] at ih ⊢
    rw [rule]
    simp [operator, Nat.not_le.mpr room, ih.1, ih.2, Except.map]
  | unprefixed operand _ ih =>
    rw [Answers] at ih ⊢
    rw [rule]
    simp [operand, ih.1, ih.2]
  | groupDeep opens full =>
    rw [Answers, rule]
    simp [opens, full]
  | groupFault opens room _ ih =>
    rw [Answers] at ih ⊢
    rw [rule]
    simp [opens, Nat.not_le.mpr room, ih.1, ih.2]
  | group opens room _ closes ih =>
    rw [Answers] at ih ⊢
    rw [rule]
    simp [opens, Nat.not_le.mpr room, ih.1, ih.2, closes]
  | unclosed opens room _ unclosed ih =>
    rw [Answers] at ih ⊢
    rw [rule]
    simp [opens, Nat.not_le.mpr room, ih.1, ih.2, unclosed]
  | literal denotes =>
    rw [Answers, rule]
    simp [Token.ne_leftParen_of_literal? denotes, denotes]
  | nothing unopened denotes =>
    rw [Answers, rule]
    simp [unopened, denotes]
  | firstFault loose _ ih =>
    obtain ⟨unprefixed, compound⟩ := Precedence.compound_of_level_lt loose
    rw [Answers] at ih ⊢
    rw [rule]
    simp [unprefixed, compound, ih.1, ih.2]
  | first loose _ _ ihFirst ihMore =>
    obtain ⟨unprefixed, compound⟩ := Precedence.compound_of_level_lt loose
    simp only [Answers] at ihFirst ihMore ⊢
    rw [rule]
    simp [unprefixed, compound, ihFirst.1, ihFirst.2, ihMore]
  | operandFault found _ ih =>
    rw [Answers] at ih
    intro start bound
    rw [chain]
    simp [found, ih.1, ih.2]
  | operand found _ _ ihOperand ihMore =>
    simp only [Answers] at ihOperand ihMore
    intro start bound
    rw [chain]
    simp [found, ihOperand.1, ihOperand.2, ihMore]
  | finished unfound =>
    intro start bound
    rw [chain]
    simp [unfound]

theorem Ends.answered {q : Precedence} {p : Parser} (ends : ∃ result next, Ends (.rule q) p result next) :
    Ends (.rule q) p (rule q p).result (rule q p).next := by
  obtain ⟨result, next, ends⟩ := ends
  have answer := ends.answers
  simp only [Answers] at answer
  rwa [answer.1, answer.2]

theorem exists_ends :
    (∀ q p, ∃ result next, Ends (.rule q) p result next) ∧
      ∀ (q : Precedence) (left : Expr) (p start : Parser) (_ : p.rest.length ≤ start.rest.length),
        ∃ result next, Ends (.chain q left) p result next := by
  apply rule.mutual_induct
  case case1 =>
    intro p operator full
    exact ⟨_, _, .prefixedDeep operator full⟩
  case case2 =>
    intro p operator room ih
    have operand := Ends.answered ih
    cases answer : (rule .unary p.advance.enter).result with
    | error fault => exact ⟨_, _, .prefixedFault operator (Nat.not_le.mp room) (answer ▸ operand)⟩
    | ok e => exact ⟨_, _, .prefixed operator (Nat.not_le.mp room) (answer ▸ operand)⟩
  case case3 =>
    intro p operand ⟨result, next, primary⟩
    exact ⟨_, _, .unprefixed (Bool.eq_false_iff.mpr operand) primary⟩
  case case4 =>
    intro p opens full _
    exact ⟨_, _, .groupDeep opens full⟩
  case case5 =>
    intro p opens room inner stop _ fault answer _ ih
    exact ⟨_, _, .groupFault opens (Nat.not_le.mp room) (answer ▸ Ends.answered ih)⟩
  case case6 =>
    intro p opens room inner stop _ e answer closes _ ih
    exact ⟨_, _, .group opens (Nat.not_le.mp room) (answer ▸ Ends.answered ih) closes⟩
  case case7 =>
    intro p opens room inner stop _ e answer unclosed _ ih
    exact ⟨_, _, .unclosed opens (Nat.not_le.mp room) (answer ▸ Ends.answered ih) unclosed⟩
  case case8 =>
    intro p _ v denotes _
    exact ⟨_, _, .literal denotes⟩
  case case9 =>
    intro p unopened denotes _
    exact ⟨_, _, .nothing unopened denotes⟩
  case case10 =>
    intro q p unprefixed compound first fault answer ih
    exact ⟨_, _, .firstFault (Precedence.level_lt_of_compound unprefixed compound) (answer ▸ Ends.answered ih)⟩
  case case11 =>
    intro q p unprefixed compound first left answer ih ⟨result, next, more⟩
    exact ⟨_, _, .first (Precedence.level_lt_of_compound unprefixed compound) (answer ▸ Ends.answered ih) more⟩
  case case12 =>
    intro q left p _ _ found right _ fault answer ih
    exact ⟨_, _, .operandFault found (answer ▸ Ends.answered ih)⟩
  case case13 =>
    intro q left p _ _ found right _ e answer ih ⟨result, next, more⟩
    exact ⟨_, _, .operand found (answer ▸ Ends.answered ih) more⟩
  case case14 =>
    intro q left p _ _ unfound
    exact ⟨_, _, .finished unfound⟩

theorem ends_rule (q : Precedence) (p : Parser) : Ends (.rule q) p (rule q p).result (rule q p).next :=
  Ends.answered (exists_ends.1 q p)

end Parser

end Reckon
