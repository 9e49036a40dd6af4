import Reckon.Expr.Precedence

namespace Reckon

inductive SyntaxFault where
  | expectedExpression
  | missingRightParen
  | expectedFinish
  | tooDeeplyNested
deriving DecidableEq

def SyntaxFault.message : SyntaxFault → String
  | expectedExpression => "Expecting an expression."
  | missingRightParen => "Expect ')' after expression."
  | expectedFinish => "Expect end of expression."
  | tooDeeplyNested => "Expression nests too deeply."

structure SyntaxError where
  fault : SyntaxFault
  token : Token
deriving DecidableEq

def SyntaxError.diagnostic (e : SyntaxError) : Diagnostic :=
  ⟨.syntactic, e.token.line, e.token.location, e.fault.message⟩

/-- A parse under way: the tokens ahead, the line of the last token of all, and how many parentheses and
prefix operators are open. -/
structure Parser where
  rest : List Token
  lastLine : Nat
  depth : Nat

namespace Parser

def maxDepth : Nat := 255

def ofTokens (tokens : List Token) : Parser := ⟨tokens, (tokens.getLast?.map Token.line).getD 1, 0⟩

/-- The next token. A list without an end is taken to end on its last line. -/
def peek (p : Parser) : Token := p.rest.headD (.finish p.lastLine)

def advance (p : Parser) : Parser := if p.peek.isFinish then p else { p with rest := p.rest.tail }

theorem length_advance_le (p : Parser) : p.advance.rest.length ≤ p.rest.length := by
  unfold advance
  split
  · exact Nat.le_refl _
  · simp

theorem length_advance_lt {p : Parser} (going : p.peek.isFinish = false) :
    p.advance.rest.length < p.rest.length := by
  cases ahead : p.rest with
  | nil => simp [peek, ahead, Token.isFinish, Token.finish] at going
  | cons token rest => simp [advance, going, ahead]

/-- What a rule answers that may read what is ahead of `start`: the expression read, or the fault of the
token at which it stopped. -/
structure Reply (start : Parser) where
  result : Except SyntaxFault Expr
  next : Parser
  bound : next.rest.length ≤ start.rest.length

def enter (p : Parser) : Parser := { p with depth := p.depth + 1 }

def leave (p : Parser) : Parser := { p with depth := p.depth - 1 }

theorem budget_advance {q : Precedence} {p next : Parser} (shorter : next.rest.length < p.rest.length) :
    8 * next.rest.length + q.looseness + 1 < 8 * p.rest.length := by
  have := q.looseness_le
  omega

theorem budget_enter {q r : Precedence} {p next : Parser} (shorter : next.rest.length < p.rest.length) :
    8 * next.enter.rest.length + q.looseness + 1 < 8 * p.rest.length + r.looseness + 1 :=
  Nat.lt_of_lt_of_le (budget_advance shorter) (by omega)

mutual

def rule (q : Precedence) (p : Parser) : Reply p :=
  if _prefixed : q = .unary then
    if _operator : p.peek.isPrefixOperator then
      if maxDepth ≤ p.depth then ⟨.error .tooDeeplyNested, p.advance, p.length_advance_le⟩
      else
        let operand := rule .unary p.advance.enter
        ⟨operand.result.map (.unary p.peek), operand.next.leave,
          Nat.le_trans operand.bound p.length_advance_le⟩
    else rule .primary p
  else if _smallest : q = .primary then
    if _opening : p.peek.symbol = .mark .leftParen then
      if maxDepth ≤ p.depth then ⟨.error .tooDeeplyNested, p.advance, p.length_advance_le⟩
      else
        let inner := rule .equality p.advance.enter
        let stop := inner.next.leave
        have bound : stop.rest.length ≤ p.rest.length := Nat.le_trans inner.bound p.length_advance_le
        match inner.result with
        | .error fault => ⟨.error fault, stop, bound⟩
        | .ok e =>
          if stop.peek.symbol = .mark .rightParen then
            ⟨.ok (.group e), stop.advance, Nat.le_trans stop.length_advance_le bound⟩
          else ⟨.error .missingRightParen, stop, bound⟩
    else
      match p.peek.literal? with
      | some v => ⟨.ok (.literal v), p.advance, p.length_advance_le⟩
      | none => ⟨.error .expectedExpression, p, Nat.le_refl _⟩
  else
    let first := rule q.tighter p
    match first.result with
    | .error fault => ⟨.error fault, first.next, first.bound⟩
    | .ok left => chain q left first.next p first.bound
termination_by 8 * p.rest.length + q.looseness + 1
decreasing_by
  · exact budget_enter (length_advance_lt (Token.not_finish_of_isPrefixOperator _operator))
  · subst _prefixed
    exact Nat.succ_lt_succ (Nat.add_lt_add_left (by decide) _)
  · exact budget_enter (length_advance_lt (by rw [Token.isFinish, _opening]; rfl))
  · exact Nat.succ_lt_succ (Nat.add_lt_add_left (Precedence.looseness_tighter _smallest) _)
  · exact Nat.lt_succ_of_le (Nat.le_trans (Nat.mul_le_mul_left 8 first.bound) (Nat.le_add_right _ _))

/-- Reads operators of precedence `q` with their right operands, each applied to all that stands left of it.
-/
def chain (q : Precedence) (left : Expr) (p start : Parser) (bound : p.rest.length ≤ start.rest.length) :
    Reply start :=
  if _operator : p.peek.precedence? = some q then
    let right := rule q.tighter p.advance
    have within : right.next.rest.length ≤ p.rest.length := Nat.le_trans right.bound p.length_advance_le
    match right.result with
    | .error fault => ⟨.error fault, right.next, Nat.le_trans within bound⟩
    | .ok operand => chain q (.binary left p.peek operand) right.next start (Nat.le_trans within bound)
  else ⟨.ok left, p, bound⟩
termination_by 8 * p.rest.length
decreasing_by
  · exact budget_advance (length_advance_lt (Token.not_finish_of_precedence? _operator))
  · exact Nat.mul_lt_mul_of_pos_left (Nat.lt_of_le_of_lt right.bound
      (length_advance_lt (Token.not_finish_of_precedence? _operator))) (by decide)

end

end Parser

def Expr.ofTokens (tokens : List Token) : Except SyntaxError Expr :=
  let reply := (Parser.ofTokens tokens).rule .equality
  match reply.result with
  | .error fault => .error ⟨fault, reply.next.peek⟩
  | .ok e => if reply.next.peek.isFinish then .ok e else .error ⟨.expectedFinish, reply.next.peek⟩

end Reckon
