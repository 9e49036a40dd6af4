import Reckon.Proofs.Rewording

namespace Reckon

namespace Parser

/-- The first end ahead, or the one that is taken to follow. -/
def ending (p : Parser) : Token := (p.rest.find? Token.isFinish).getD (.finish p.lastLine)

def ended (p : Parser) : Parser := ⟨beforeFinish p.rest ++ [p.ending], p.ending.line, p.depth⟩

theorem ended_of_finish {p : Parser} (ends : p.peek.isFinish = true) : p.ended = ⟨[p.peek], p.peek.line, p.depth⟩ := by
  obtain ⟨rest, lastLine, depth⟩ := p
  cases rest with
  | nil => rfl
  | cons t rest =>
    have finish : t.isFinish = true := ends
    simp [ended, ending, beforeFinish, peek, finish]

theorem ended_of_going {p : Parser} (going : p.peek.isFinish = false) :
    p.ended = { p.advance.ended with rest := p.peek :: p.advance.ended.rest } := by
  obtain ⟨rest, lastLine, depth⟩ := p
  cases rest with
  | nil => cases going
  | cons t rest =>
    have other : t.isFinish = false := going
    simp [ended, ending, beforeFinish, advance, peek, other]

theorem peek_ended (p : Parser) : p.ended.peek = p.peek := by
  cases finish : p.peek.isFinish with
  | true => rw [ended_of_finish finish]; rfl
  | false => rw [ended_of_going finish]; rfl

theorem advance_ended (p : Parser) : p.ended.advance = p.advance.ended := by
  cases finish : p.peek.isFinish with
  | true => rw [advance, advance, peek_ended, finish, if_pos rfl, if_pos rfl]
  | false => rw [advance, peek_ended, finish, if_neg Bool.false_ne_true, ended_of_going finish]; rfl

theorem beforeFinish_append_of_finish (tokens rest : List Token) {last : Token} (finish : last.isFinish = true) :
    beforeFinish (tokens ++ last :: rest) = beforeFinish tokens := by
  induction tokens with
  | nil => simp [beforeFinish, finish]
  | cons t tokens ih =>
    unfold beforeFinish at ih ⊢
    simp only [List.cons_append, List.takeWhile_cons, ih]

theorem ended_ofTokens_append (tokens rest : List Token) {last : Token} (finish : last.isFinish = true) :
    (ofTokens (tokens ++ last :: rest)).ended =
      ⟨beforeFinish tokens ++ [(tokens.find? Token.isFinish).getD last],
        ((tokens.find? Token.isFinish).getD last).line, 0⟩ := by
  have first : (tokens ++ last :: rest).find? Token.isFinish = some ((tokens.find? Token.isFinish).getD last) := by
    rw [List.find?_append, List.find?_cons_of_pos finish]
    cases tokens.find? Token.isFinish <;> rfl
  simp only [ended, ending, ofTokens, beforeFinish_append_of_finish tokens rest finish, first, Option.getD_some]

theorem carries_ended : Carries id ended where
  symbol p := congrArg Token.symbol p.peek_ended
  peek p _ := p.peek_ended
  depth _ := rfl
  advance := advance_ended
  enter _ := rfl
  leave _ := rfl

end Parser

theorem Expr.reworded_id (e : Expr) : e.reworded id = e := by
  induction e with
  | literal v => rfl
  | group inner ih => rw [reworded, ih]
  | unary operator operand ih => rw [reworded, ih, id]
  | binary left operator right ihLeft ihRight => rw [reworded, ihLeft, ihRight, id]

namespace Parser

theorem Ends.ended {q : Precedence} {p next : Parser} {result : Except SyntaxFault Expr}
    (ends : Ends (.rule q) p result next) : Ends (.rule q) p.ended result next.ended := by
  have carried := ends.carried carries_ended
  have same : result.map (Expr.reworded id) = result := by
    cases result with
    | error fault => rfl
    | ok e => rw [Except.map, e.reworded_id]
  rwa [same] at carried

def parsed (p : Parser) : Except SyntaxError Expr :=
  let reply := p.rule .equality
  match reply.result with
  | .error fault => .error ⟨fault, reply.next.peek⟩
  | .ok e => if reply.next.peek.isFinish then .ok e else .error ⟨.expectedFinish, reply.next.peek⟩

theorem parsed_ended (p : Parser) : p.ended.parsed = p.parsed := by
  obtain ⟨result, next⟩ := (ends_rule .equality p).ended.answers
  simp only [parsed, result, next, peek_ended]

end Parser

namespace Expr

theorem ofTokens_eq_of_ended {tokens others : List Token}
    (same : (Parser.ofTokens tokens).ended = (Parser.ofTokens others).ended) : ofTokens tokens = ofTokens others :=
  calc ofTokens tokens
      = (Parser.ofTokens tokens).ended.parsed := (Parser.parsed_ended _).symm
    _ = (Parser.ofTokens others).ended.parsed := by rw [same]
    _ = ofTokens others := Parser.parsed_ended _

/-- What stands behind an end changes nothing of a parse, and a list without an end is parsed as if it ended on its
last line. -/
theorem ofTokens_up_to_end (tokens rest : List Token) (lexeme : String) (line : Nat) :
    ofTokens (tokens ++ [⟨.finish, lexeme, line⟩] ++ rest) = ofTokens (tokens ++ [⟨.finish, lexeme, line⟩]) ∧
      ofTokens tokens = ofTokens (tokens ++ [.finish ((tokens.getLast?.map Token.line).getD 1)]) := by
  have finish : (Token.mk .finish lexeme line).isFinish = true := rfl
  constructor
  · apply ofTokens_eq_of_ended
    rw [List.append_assoc, List.singleton_append, Parser.ended_ofTokens_append tokens rest finish,
      Parser.ended_ofTokens_append tokens [] finish]
  · apply ofTokens_eq_of_ended
    exact (Parser.ended_ofTokens_append tokens [] rfl).symm

end Expr

end Reckon
