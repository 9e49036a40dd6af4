import Mathlib.Control.Monad.Basic
import Reckon.Proofs.Places
import Reckon.Proofs.Recognition

namespace Reckon

/-- How a reading from a place ends in a fault: the tokens that fit, and the token at which the fault is told. -/
inductive Stuck (place : Place) : List Token → Token → SyntaxFault → Prop
  | expectedExpression {read : List Token} {token : Token} {opened : List Opening}
      (reads : place.readAll read = some ⟨true, opened⟩) (unopened : token.symbol ≠ .mark .leftParen)
      (unprefixed : token.isPrefixOperator = false) (denotes : token.literal? = none) :
      Stuck place read token .expectedExpression
  | missingRightParen {read : List Token} {token : Token} {outer : List Opening}
      (reads : place.readAll read = some ⟨false, .parenthesis :: outer⟩) (unfound : token.precedence? = none)
      (unclosed : token.symbol ≠ .mark .rightParen) : Stuck place read token .missingRightParen
  | expectedFinish {read : List Token} {token : Token} (reads : place.readAll read = some ⟨false, []⟩)
      (unfound : token.precedence? = none) (going : token.isFinish = false) :
      Stuck place read token .expectedFinish
  | tooDeeplyNested {before : List Token} {opening token : Token} {opened : List Opening}
      (reads : place.readAll before = some ⟨true, opened⟩) (full : opened.length = Parser.maxDepth)
      (opens : opening.symbol = .mark .leftParen ∨ opening.isPrefixOperator = true) :
      Stuck place (before ++ [opening]) token .tooDeeplyNested

theorem Stuck.append {place middle : Place} {front read : List Token} {token : Token} {fault : SyntaxFault}
    (reads : place.readAll front = some middle) (stuck : Stuck middle read token fault) :
    Stuck place (front ++ read) token fault := by
  have more : ∀ tokens next, middle.readAll tokens = some next → place.readAll (front ++ tokens) = some next := by
    intro tokens next rest
    rw [Place.readAll_append, reads, Option.bind_some, rest]
  cases stuck with
  | expectedExpression rest unopened unprefixed denotes =>
    exact .expectedExpression (more _ _ rest) unopened unprefixed denotes
  | missingRightParen rest unfound unclosed => exact .missingRightParen (more _ _ rest) unfound unclosed
  | expectedFinish rest unfound going => exact .expectedFinish (more _ _ rest) unfound going
  | tooDeeplyNested rest full opens =>
    rw [← List.append_assoc]
    exact .tooDeeplyNested (more _ _ rest) full opens

theorem Stuck.at_once {opened : List Opening} {opening token : Token} (full : opened.length = Parser.maxDepth)
    (opens : opening.symbol = .mark .leftParen ∨ opening.isPrefixOperator = true) :
    Stuck ⟨true, opened⟩ [opening] token .tooDeeplyNested :=
  @tooDeeplyNested _ [] _ _ _ rfl full opens

theorem Precedence.tighter_ne_primary {q : Precedence} (loose : q.level < unary.level) : q.tighter ≠ primary := by
  cases q <;> first | decide | exact absurd loose (by decide)

namespace Parser

/-- Between two states a reading gets stuck. What is open around a chain is no prefix operator. -/
def Rejects : Task → Parser → SyntaxFault → Parser → Prop
  | .rule q, p, fault, next => ∀ opened : List Opening, opened.length = p.depth →
      (q.level < Precedence.unary.level → Place.behind opened = ⟨false, opened⟩) →
      (q = .primary → p.peek.isPrefixOperator = false) →
      ∃ read, p = next.unread read ∧ Stuck ⟨true, opened⟩ read next.peek fault
  | .chain _ _, p, fault, next => ∀ opened : List Opening, opened.length = p.depth →
      Place.behind opened = ⟨false, opened⟩ →
      ∃ read, p = next.unread read ∧ Stuck ⟨false, opened⟩ read next.peek fault

theorem Stops.none {p : Parser} (stops : p.Stops .equality) : p.peek.precedence? = none := by
  cases found : p.peek.precedence? with
  | none => rfl
  | some r =>
    have looser := stops r found
    cases r <;> exact absurd looser (by decide)

theorem unread_of_advance {p next : Parser} {read : List Token} (going : p.peek.isFinish = false)
    (left : p.advance = next.unread read) : p = next.unread (p.peek :: read) := by
  calc
    p = p.advance.unread [p.peek] := (unread_advance going).symm
    _ = next.unread (p.peek :: read) := by rw [left, unread_unread]; rfl

theorem rejects_opened {p next : Parser} {opened : List Opening} {fault : SyntaxFault} (opening : Opening)
    (going : p.peek.isFinish = false)
    (moved : Place.after? ⟨true, opened⟩ p.peek = some ⟨true, opening :: opened⟩)
    (inner : ∃ read, p.advance.enter = next.unread read ∧ Stuck ⟨true, opening :: opened⟩ read next.peek fault) :
    ∃ read, p = next.leave.unread read ∧ Stuck ⟨true, opened⟩ read next.leave.peek fault := by
  obtain ⟨read, before, stuck⟩ := inner
  have left : p.advance = next.leave.unread read := by rw [← leave_enter p.advance, before, leave_unread]
  have first : Place.readAll ⟨true, opened⟩ [p.peek] = some ⟨true, opening :: opened⟩ := by
    rw [Place.readAll_cons, moved]
    rfl
  exact ⟨p.peek :: read, unread_of_advance going left, stuck.append first⟩

theorem Ends.rejects {task : Task} {p next : Parser} {result : Except SyntaxFault Expr}
    (ends : Ends task p result next) :
    p.depth ≤ maxDepth → ∀ fault, result = .error fault → Rejects task p fault next := by
  induction ends with
  | prefixed | group | literal | finished =>
    intro _ fault error
    cases error
  | @prefixedDeep p operator full =>
    intro within fault error opened length _ _
    cases error
    have going := Token.not_finish_of_isPrefixOperator operator
    exact ⟨[p.peek], (unread_advance going).symm,
      .at_once (by omega) (.inr operator)⟩
  | @groupDeep p opens full =>
    intro within fault error opened length _ _
    cases error
    have going : p.peek.isFinish = false := by simp [Token.isFinish, opens]
    exact ⟨[p.peek], (unread_advance going).symm,
      .at_once (by omega) (.inl opens)⟩
  | @prefixedFault p next fault operator room _ ih =>
    intro _ fault error opened length _ _
    cases error
    have deeper : p.advance.enter.depth = p.depth + 1 := by rw [enter, depth_advance]
    have inner := ih (by omega) _ rfl (.operator :: opened) (by rw [List.length_cons, length, deeper])
      (fun loose => absurd loose (by decide)) (by intro same; cases same)
    refine rejects_opened .operator (Token.not_finish_of_isPrefixOperator operator) ?_ inner
    rw [Place.after?_prefix operator, Place.deeper?_of_lt (by omega)]
  | @groupFault p next fault opens room _ ih =>
    intro _ fault error opened length _ _
    cases error
    have deeper : p.advance.enter.depth = p.depth + 1 := by rw [enter, depth_advance]
    have inner := ih (by omega) _ rfl (.parenthesis :: opened) (by rw [List.length_cons, length, deeper])
      (fun _ => rfl) (by intro same; cases same)
    refine rejects_opened .parenthesis (by simp [Token.isFinish, opens]) ?_ inner
    rw [Place.after?_leftParen opens, Place.deeper?_of_lt (by omega)]
  | @unclosed p next e opens room ends unclosed _ =>
    intro _ fault error opened length _ _
    cases error
    have going : p.peek.isFinish = false := by simp [Token.isFinish, opens]
    have deeper : p.advance.enter.depth = p.depth + 1 := by rw [enter, depth_advance]
    obtain ⟨read, before, spells, stops⟩ := ends.completes (by omega) e rfl
    have inner := spells.reads.place spells.bound (.parenthesis :: opened)
      (by have := spells.shallow; rw [List.length_cons]; omega)
    refine rejects_opened .parenthesis going ?_
      ⟨read, before, .missingRightParen inner stops.none unclosed⟩
    rw [Place.after?_leftParen opens, Place.deeper?_of_lt (by omega)]
  | nothing unopened denotes =>
    intro _ fault error opened length _ unprefixed
    cases error
    exact ⟨[], rfl, .expectedExpression rfl unopened (unprefixed rfl) denotes⟩
  | unprefixed operand _ ih =>
    intro within fault error opened length _ _
    exact ih within fault error opened length (fun loose => absurd loose (by decide)) (fun _ => operand)
  | firstFault loose _ ih =>
    intro within fault error opened length settled _
    exact ih within fault error opened length (fun _ => settled loose)
      (fun same => absurd same (Precedence.tighter_ne_primary loose))
  | @first q p middle next left result loose first _ _ ih =>
    intro within fault error opened length settled _
    obtain ⟨read, before, spells, -⟩ := first.completes within left rfl
    have same : middle.depth = p.depth := by rw [before, depth_unread]
    have place := spells.reads.place spells.bound opened (by have := spells.shallow; omega)
    rw [settled loose] at place
    obtain ⟨more, after, stuck⟩ := ih (same ▸ within) fault error opened (by omega) (settled loose)
    exact ⟨read ++ more, by rw [before, after, unread_unread], stuck.append place⟩
  | @operandFault _ p next left fault found _ ih =>
    intro within fault error opened length settled
    have loose := Token.level_lt_of_precedence? found
    obtain ⟨read, before, stuck⟩ := ih (by simpa using within) fault error opened (by simpa using length)
      (fun _ => settled) (fun same => absurd same (Precedence.tighter_ne_primary loose))
    have operator : Place.readAll ⟨false, opened⟩ [p.peek] = some ⟨true, opened⟩ := by
      rw [Place.readAll_cons, Place.after?_operator found]
      rfl
    exact ⟨p.peek :: read, unread_of_advance (Token.not_finish_of_precedence? found) before,
      stuck.append operator⟩
  | @operand q p middle next left right result found operand _ _ ih =>
    intro within fault error opened length settled
    obtain ⟨read, before, spells, -⟩ := operand.completes (by simpa using within) right rfl
    have same : middle.depth = p.depth := by rw [← depth_advance p, before, depth_unread]
    have place := spells.reads.place spells.bound opened
      (by have := spells.shallow; rw [depth_advance] at this; omega)
    rw [settled] at place
    have operator : Place.readAll ⟨false, opened⟩ (p.peek :: read) = some ⟨false, opened⟩ := by
      rw [Place.readAll_cons, Place.after?_operator found]
      exact place
    obtain ⟨more, after, stuck⟩ := ih (same ▸ within) fault error opened (by omega) settled
    have left : p.advance = next.unread (read ++ more) := by rw [before, after, unread_unread]
    exact ⟨p.peek :: (read ++ more), unread_of_advance (Token.not_finish_of_precedence? found) left,
      stuck.append operator⟩

end Parser

theorem beforeFinish_append {read : List Token} (going : ∀ t ∈ read, t.isFinish = false) (rest : List Token) :
    beforeFinish (read ++ rest) = read ++ beforeFinish rest := by
  apply List.takeWhile_append_of_pos
  intro t member
  rw [going t member]
  rfl

theorem beforeFinish_of_not_finish {tokens : List Token} (going : ∀ t ∈ tokens, t.isFinish = false) :
    beforeFinish tokens = tokens := by
  have whole := beforeFinish_append going []
  rwa [List.append_nil, show beforeFinish [] = [] from rfl, List.append_nil] at whole

theorem beforeFinish_append_finish {read : List Token} {token : Token} (going : ∀ t ∈ read, t.isFinish = false)
    (finish : token.isFinish = true) (rest : List Token) : beforeFinish (read ++ token :: rest) = read := by
  rw [beforeFinish_append going, beforeFinish, List.takeWhile_cons_of_neg (by simp [finish]), List.append_nil]

theorem Place.refuses {place : Place} {read : List Token} {token : Token}
    (reads : start.readAll read = some place) (unfit : place.after? token = none)
    (unended : token.isFinish = true → place ≠ ⟨false, []⟩) (rest : List Token) :
    start.readAll (beforeFinish (read ++ token :: rest)) ≠ some ⟨false, []⟩ := by
  have going := not_finish_of_readAll reads
  intro accepted
  cases finish : token.isFinish with
  | true =>
    rw [beforeFinish_append_finish going finish, reads] at accepted
    exact unended finish (Option.some.inj accepted)
  | false =>
    rw [beforeFinish_append going, beforeFinish, List.takeWhile_cons_of_pos (by simp [finish]), readAll_append,
      reads, Option.bind_some, readAll_cons, unfit] at accepted
    cases accepted

def SyntaxFault.missingBehind (tokens : List Token) : SyntaxFault :=
  if tokens.getLast?.all Token.awaitsOperand then .expectedExpression
  else if tokens.countP Token.closesParenthesis < tokens.countP Token.opensParenthesis then .missingRightParen
  else .expectedFinish

namespace Stuck

variable {read : List Token} {token : Token} {fault : SyntaxFault}

theorem unfit (stuck : Stuck .start read token fault) (shallow : fault ≠ .tooDeeplyNested) :
    ∃ place, Place.start.readAll read = some place ∧ place.after? token = none ∧
      (token.isFinish = true → place ≠ ⟨false, []⟩) := by
  cases stuck with
  | expectedExpression reads unopened unprefixed denotes =>
    exact ⟨_, reads, by simp [Place.after?, Token.opensParenthesis, unopened, unprefixed, denotes], by simp⟩
  | missingRightParen reads unfound unclosed =>
    exact ⟨_, reads, by simp [Place.after?, Token.closesParenthesis, unfound, unclosed], by simp⟩
  | expectedFinish reads unfound going =>
    exact ⟨_, reads, by simp [Place.after?, unfound], by simp [going]⟩
  | tooDeeplyNested => exact absurd rfl shallow

theorem too_deep (stuck : Stuck .start read token .tooDeeplyNested) : ∃ before opening opened,
    read = before ++ [opening] ∧ (opening.symbol = .mark .leftParen ∨ opening.isPrefixOperator = true) ∧
      Place.start.readAll before = some ⟨true, opened⟩ ∧ opened.length = Parser.maxDepth ∧
      Place.after? ⟨true, opened⟩ opening = none ∧ opening.isFinish = false := by
  cases stuck with
  | tooDeeplyNested reads full opens =>
    refine ⟨_, _, _, rfl, opens, reads, full, ?_, ?_⟩
    · rcases opens with symbol | stands
      · simp [Place.after?_leftParen symbol, Place.deeper?, full]
      · simp [Place.after?_prefix stands, Place.deeper?, full]
    · rcases opens with symbol | stands
      · simp [Token.isFinish, symbol]
      · exact Token.not_finish_of_isPrefixOperator stands

theorem not_finish (stuck : Stuck .start read token fault) : ∀ t ∈ read, t.isFinish = false := by
  by_cases deep : fault = .tooDeeplyNested
  · subst deep
    obtain ⟨before, opening, opened, rfl, -, reads, -, -, going⟩ := stuck.too_deep
    rw [List.forall_mem_append]
    exact ⟨Place.not_finish_of_readAll reads, by simpa using going⟩
  · obtain ⟨place, reads, -⟩ := stuck.unfit deep
    exact Place.not_finish_of_readAll reads

theorem refuses {line : Nat} {rest : List Token} (stuck : Stuck .start read (rest.headD (.finish line)) fault) :
    Place.start.readAll (beforeFinish (read ++ rest)) ≠ some ⟨false, []⟩ := by
  by_cases deep : fault = .tooDeeplyNested
  · subst deep
    obtain ⟨before, opening, opened, rfl, -, reads, -, unfit, -⟩ := stuck.too_deep
    rw [List.append_assoc]
    exact Place.refuses reads unfit (by simp) rest
  · obtain ⟨place, reads, unfit, unended⟩ := stuck.unfit deep
    cases rest with
    | cons token rest => exact Place.refuses reads unfit unended rest
    | nil =>
      have same : beforeFinish (read ++ []) = beforeFinish (read ++ [.finish line]) := by
        rw [beforeFinish_append_finish stuck.not_finish rfl, List.append_nil,
          beforeFinish_of_not_finish stuck.not_finish]
      rw [same]
      exact Place.refuses reads unfit unended []

theorem completes (stuck : Stuck .start read token fault) (shallow : fault ≠ .tooDeeplyNested) :
    ∃ suffix, Place.start.readAll (read ++ suffix) = some ⟨false, []⟩ := by
  cases stuck with
  | @expectedExpression _ _ opened reads =>
    obtain ⟨suffix, ends⟩ := Place.exists_completion opened
    exact ⟨suffix, by rw [Place.readAll_append, reads, Option.bind_some, ends]⟩
  | @missingRightParen _ _ outer reads =>
    obtain ⟨suffix, ends⟩ := Place.exists_closing (.parenthesis :: outer)
    exact ⟨suffix, by rw [Place.readAll_append, reads, Option.bind_some, ← Place.behind_parenthesis, ends]⟩
  | expectedFinish reads => exact ⟨[], by rw [List.append_nil, reads]⟩
  | tooDeeplyNested => exact absurd rfl shallow

theorem fault_eq (stuck : Stuck .start read token fault) (shallow : fault ≠ .tooDeeplyNested) :
    fault = .missingBehind read := by
  cases stuck with
  | expectedExpression reads =>
    rw [SyntaxFault.missingBehind, ← Place.awaits_of_readAll reads]
    rfl
  | missingRightParen reads =>
    have count := Place.count_of_readAll reads
    have opens : read.countP Token.closesParenthesis < read.countP Token.opensParenthesis := by
      simp only [Place.start, List.count_nil, List.count_cons_self] at count
      omega
    rw [SyntaxFault.missingBehind, ← Place.awaits_of_readAll reads, if_pos opens]
    rfl
  | expectedFinish reads =>
    have count := Place.count_of_readAll reads
    have balanced : ¬ read.countP Token.closesParenthesis < read.countP Token.opensParenthesis := by
      simp only [Place.start, List.count_nil] at count
      omega
    rw [SyntaxFault.missingBehind, ← Place.awaits_of_readAll reads, if_neg balanced]
    rfl
  | tooDeeplyNested => exact absurd rfl shallow

end Stuck

namespace Expr

theorem stuck_of_ofTokens {tokens : List Token} {err : SyntaxError} (rejected : ofTokens tokens = .error err) :
    ∃ read rest, tokens = read ++ rest ∧
      err.token = rest.headD (.finish ((tokens.getLast?.map Token.line).getD 1)) ∧
      Stuck .start read err.token err.fault := by
  have ends := Parser.ends_rule .equality (Parser.ofTokens tokens)
  generalize answer : ((Parser.ofTokens tokens).rule .equality).result = result at ends
  generalize stop : ((Parser.ofTokens tokens).rule .equality).next = next at ends
  have head : ∀ read, Parser.ofTokens tokens = next.unread read → tokens = read ++ next.rest ∧
      next.peek = next.rest.headD (.finish ((tokens.getLast?.map Token.line).getD 1)) := by
    intro read before
    refine ⟨congrArg Parser.rest before, ?_⟩
    have line : (tokens.getLast?.map Token.line).getD 1 = next.lastLine := congrArg Parser.lastLine before
    rw [line, Parser.peek]
  cases result with
  | error fault =>
    have same : err = ⟨fault, next.peek⟩ := by
      rw [ofTokens] at rejected
      simp only [answer, stop] at rejected
      exact (Except.error.inj rejected).symm
    obtain ⟨read, before, stuck⟩ :=
      ends.rejects (Nat.zero_le _) fault rfl [] rfl (fun _ => rfl) (by intro same; cases same)
    rw [same]
    exact ⟨read, next.rest, (head read before).1, (head read before).2, stuck⟩
  | ok e =>
    obtain ⟨read, before, spells, stops⟩ := ends.completes (Nat.zero_le _) e rfl
    have unended : next.peek.isFinish = false := by
      cases finish : next.peek.isFinish with
      | false => rfl
      | true =>
        rw [ofTokens] at rejected
        simp [answer, stop, finish] at rejected
    have same : err = ⟨.expectedFinish, next.peek⟩ := by
      rw [ofTokens] at rejected
      simp only [answer, stop, unended, Bool.false_eq_true, ↓reduceIte] at rejected
      exact (Except.error.inj rejected).symm
    rw [same]
    refine ⟨read, next.rest, (head read before).1, (head read before).2, .expectedFinish ?_ ?_ unended⟩
    · exact spells.reads.place spells.bound [] (by rw [List.length_nil, Nat.zero_add]; exact spells.shallow)
    · exact stops.none

theorem exists_ofTokens_iff {tokens : List Token} :
    (∃ e, ofTokens tokens = .ok e) ↔ Place.start.readAll (beforeFinish tokens) = some ⟨false, []⟩ := by
  constructor
  · rintro ⟨e, parsed⟩
    have spells := ofTokens_eq_ok_iff.mp parsed
    exact spells.reads.place spells.bound [] (by rw [List.length_nil, Nat.zero_add]; exact spells.shallow)
  · intro accepted
    cases answer : ofTokens tokens with
    | ok e => exact ⟨e, rfl⟩
    | error err =>
      obtain ⟨read, rest, rfl, head, stuck⟩ := stuck_of_ofTokens answer
      rw [head] at stuck
      exact absurd accepted stuck.refuses

def Viable (tokens : List Token) : Prop := ∃ suffix e, ofTokens (tokens ++ suffix) = .ok e

theorem viable_of_readAll {tokens suffix : List Token}
    (reads : Place.start.readAll (tokens ++ suffix) = some ⟨false, []⟩) : Viable tokens := by
  refine ⟨suffix, exists_ofTokens_iff.mpr ?_⟩
  rw [beforeFinish_of_not_finish (Place.not_finish_of_readAll reads), reads]

theorem not_viable_of_unfit {place : Place} {read : List Token} {token : Token}
    (reads : Place.start.readAll read = some place) (unfit : place.after? token = none)
    (unended : token.isFinish = true → place ≠ ⟨false, []⟩) : ¬ Viable (read ++ [token]) := by
  rintro ⟨suffix, parsed⟩
  rw [List.append_assoc] at parsed
  exact Place.refuses reads unfit unended suffix (exists_ofTokens_iff.mp parsed)

/-- An error told at position `k` of a list: the token there, or the end, is the first that no accepted list has behind
the tokens before it. Only where a level too many is opened the error is told one token later. -/
structure Misfit (tokens : List Token) (err : SyntaxError) (k : Nat) : Prop where
  within : k ≤ (beforeFinish tokens).length
  token : err.token = tokens[k]?.getD (.finish ((tokens.getLast?.map Token.line).getD 1))
  reported : ∀ collected : Diagnostics, collected.report err.diagnostic =
    collected ++ [⟨.syntactic, err.token.line, err.token.location, err.fault.message⟩]
  first : err.fault ≠ .tooDeeplyNested → Viable (tokens.take k) ∧ ¬ Viable (tokens.take k ++ [err.token]) ∧
    (err.token.isFinish = true → ∀ e, ofTokens (tokens.take k) ≠ .ok e) ∧
    err.fault = .missingBehind (tokens.take k)
  deep : err.fault = .tooDeeplyNested → ∃ before opening opened, tokens.take k = before ++ [opening] ∧
    (opening.symbol = .mark .leftParen ∨ opening.isPrefixOperator = true) ∧
    Place.start.readAll before = some ⟨true, opened⟩ ∧ opened.length = 255 ∧
    Viable before ∧ ¬ Viable (tokens.take k)

theorem ofTokens_tells_first_misfit {tokens : List Token} {err : SyntaxError}
    (rejected : ofTokens tokens = .error err) : ∃ k, Misfit tokens err k := by
  obtain ⟨read, rest, split, head, stuck⟩ := stuck_of_ofTokens rejected
  have front : tokens.take read.length = read := by rw [split, List.take_left]
  refine ⟨read.length, ?_, ?_, fun _ => rfl, ?_, ?_⟩
  · rw [split, beforeFinish_append stuck.not_finish, List.length_append]
    exact Nat.le_add_right _ _
  · rw [head, split, List.getElem?_append_right (Nat.le_refl _), Nat.sub_self]
    cases rest <;> rfl
  · intro shallow
    obtain ⟨place, reads, unfit, unended⟩ := stuck.unfit shallow
    obtain ⟨suffix, completed⟩ := stuck.completes shallow
    rw [front]
    refine ⟨viable_of_readAll completed, not_viable_of_unfit reads unfit unended, ?_, stuck.fault_eq shallow⟩
    intro finish e parsed
    have accepted := exists_ofTokens_iff.mp ⟨e, parsed⟩
    rw [beforeFinish_of_not_finish stuck.not_finish, reads] at accepted
    exact unended finish (Option.some.inj accepted)
  · intro deep
    rw [deep] at stuck
    obtain ⟨before, opening, opened, same, opens, reads, full, unfit, going⟩ := stuck.too_deep
    obtain ⟨suffix, completed⟩ := Place.exists_completion opened
    have whole : Place.start.readAll (before ++ suffix) = some ⟨false, []⟩ := by
      rw [Place.readAll_append, reads, Option.bind_some, completed]
    rw [front]
    refine ⟨before, opening, opened, same, opens, reads, full, viable_of_readAll whole, ?_⟩
    rw [same]
    exact not_viable_of_unfit reads unfit (by simp [going])

def unclosed : List Token :=
  [⟨.mark .minus, "-", 1⟩, ⟨.mark .leftParen, "(", 1⟩, ⟨.keyword .nil, "nil", 2⟩, .finish 3,
    ⟨.mark .rightParen, ")", 4⟩]

theorem unclosed_misfit : ofTokens unclosed = .error ⟨.missingRightParen, .finish 3⟩ ∧
    ∃ k, Misfit unclosed ⟨.missingRightParen, .finish 3⟩ k := by
  have rejected : ofTokens unclosed = .error ⟨.missingRightParen, .finish 3⟩ := by decide +kernel
  exact ⟨rejected, ofTokens_tells_first_misfit rejected⟩

end Expr

end Reckon
