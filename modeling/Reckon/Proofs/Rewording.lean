import Mathlib.Control.Monad.Basic
import Reckon.Proofs.Failures
import Reckon.Proofs.Parsing
import Reckon.Proofs.RoundTrip
import Reckon.Run

namespace Reckon

namespace Token

variable {s t : Token}

theorem isFinish_congr (same : s.symbol = t.symbol) : s.isFinish = t.isFinish := by
  rw [isFinish, same, isFinish]

theorem isPrefixOperator_congr (same : s.symbol = t.symbol) : s.isPrefixOperator = t.isPrefixOperator := by
  rw [isPrefixOperator, same, isPrefixOperator]

theorem precedence?_congr (same : s.symbol = t.symbol) : s.precedence? = t.precedence? := by
  rw [precedence?, same, precedence?]

theorem literal?_congr (same : s.symbol = t.symbol) : s.literal? = t.literal? := by
  rw [literal?, same, literal?]

end Token

namespace Parser

variable {f : Token → Token} (line : Nat)

def reworded (f : Token → Token) (line : Nat) (p : Parser) : Parser := ⟨p.rest.map f, line, p.depth⟩

def Task.reworded (f : Token → Token) : Task → Task
  | rule q => rule q
  | chain q left => chain q (left.reworded f)

theorem symbol_peek_reworded (keeps : ∀ t, (f t).symbol = t.symbol) (p : Parser) :
    (p.reworded f line).peek.symbol = p.peek.symbol := by
  obtain ⟨rest, last, depth⟩ := p
  cases rest with
  | nil => rfl
  | cons t rest => exact keeps t

theorem peek_reworded {p : Parser} (going : p.peek.isFinish = false) : (p.reworded f line).peek = f p.peek := by
  obtain ⟨rest, last, depth⟩ := p
  cases rest with
  | nil => cases going
  | cons t rest => rfl

theorem advance_reworded (keeps : ∀ t, (f t).symbol = t.symbol) (p : Parser) :
    (p.reworded f line).advance = p.advance.reworded f line := by
  unfold advance
  rw [Token.isFinish_congr (symbol_peek_reworded line keeps p)]
  split
  · rfl
  · simp [reworded]

/-- What is asked of a change of states that changes the tokens ahead by `f`, for a parse to go through the changed states
as through the first ones. An end that is taken to follow the tokens need not be changed by `f`. -/
structure Carries (f : Token → Token) (change : Parser → Parser) : Prop where
  symbol (p : Parser) : (change p).peek.symbol = p.peek.symbol
  peek (p : Parser) (going : p.peek.isFinish = false) : (change p).peek = f p.peek
  depth (p : Parser) : (change p).depth = p.depth
  advance (p : Parser) : (change p).advance = change p.advance
  enter (p : Parser) : (change p).enter = change p.enter
  leave (p : Parser) : (change p).leave = change p.leave

theorem Ends.carried {change : Parser → Parser} (carries : Carries f change) {task : Task} {p next : Parser}
    {result : Except SyntaxFault Expr} (ends : Ends task p result next) :
    Ends (task.reworded f) (change p) (result.map (Expr.reworded f)) (change next) := by
  have symbol := carries.symbol
  have moved := carries.advance
  have left := carries.leave
  have stands (p : Parser) := Token.isPrefixOperator_congr (symbol p)
  have known (p : Parser) := Token.precedence?_congr (symbol p)
  have value (p : Parser) := Token.literal?_congr (symbol p)
  have deeper (p : Parser) : (change p).advance.enter = change p.advance.enter := by rw [moved, carries.enter]
  -- What a rule asks of the next token it asks of the symbol. Two ways to end keep the token, and neither keeps the end.
  induction ends with
  | @prefixedDeep p operator full =>
    rw [← moved]
    exact .prefixedDeep ((stands p).trans operator) ((carries.depth p).symm ▸ full)
  | @prefixedFault p next fault operator room _ ih =>
    rw [← left]
    exact .prefixedFault ((stands p).trans operator) ((carries.depth p).symm ▸ room) (by rw [deeper]; exact ih)
  | @prefixed p next e operator room _ ih =>
    have same := carries.peek p (Token.not_finish_of_isPrefixOperator operator)
    have ends := Ends.prefixed ((stands p).trans operator) ((carries.depth p).symm ▸ room) (by rw [deeper]; exact ih)
    rw [same, left] at ends
    exact ends
  | @unprefixed p next result operand _ ih =>
    exact .unprefixed ((stands p).trans operand) ih
  | @groupDeep p opens full =>
    rw [← moved]
    exact .groupDeep ((symbol p).trans opens) ((carries.depth p).symm ▸ full)
  | @groupFault p next fault opens room _ ih =>
    rw [← left]
    exact .groupFault ((symbol p).trans opens) ((carries.depth p).symm ▸ room) (by rw [deeper]; exact ih)
  | @group p next e opens room _ closes ih =>
    have inner : Ends (.rule .equality) (change p).advance.enter (.ok (e.reworded f)) (change next) := by
      rw [deeper]; exact ih
    have closing : (change next).leave.peek.symbol = .mark .rightParen := by rw [left, symbol, closes]
    rw [← moved, ← left]
    exact .group ((symbol p).trans opens) ((carries.depth p).symm ▸ room) inner closing
  | @unclosed p next e opens room _ unclosed ih =>
    have inner : Ends (.rule .equality) (change p).advance.enter (.ok (e.reworded f)) (change next) := by
      rw [deeper]; exact ih
    have other : (change next).leave.peek.symbol ≠ .mark .rightParen := by rwa [left, symbol]
    rw [← left]
    exact .unclosed ((symbol p).trans opens) ((carries.depth p).symm ▸ room) inner other
  | @literal p v denotes =>
    rw [← moved]
    exact .literal ((value p).trans denotes)
  | @nothing p unopened denotes =>
    exact .nothing ((symbol p).trans_ne unopened) ((value p).trans denotes)
  | firstFault loose _ ih => exact .firstFault loose ih
  | first loose _ _ ihFirst ihMore => exact .first loose ihFirst ihMore
  | @operandFault q p next left fault found _ ih =>
    exact .operandFault ((known p).trans found) (by rw [moved]; exact ih)
  | @operand q p middle next left right result found _ _ ihOperand ihMore =>
    have same := carries.peek p (Token.not_finish_of_precedence? found)
    refine .operand ((known p).trans found) (by rw [moved]; exact ihOperand) ?_
    rw [same]
    exact ihMore
  | @finished q p left unfound => exact .finished ((known p).trans_ne unfound)

theorem carries_reworded (keeps : ∀ t, (f t).symbol = t.symbol) : Carries f (reworded f line) where
  symbol := symbol_peek_reworded line keeps
  peek _ := peek_reworded line
  depth _ := rfl
  advance := advance_reworded line keeps
  enter _ := rfl
  leave _ := rfl

theorem Ends.reworded (keeps : ∀ t, (f t).symbol = t.symbol) {task : Task} {p next : Parser}
    {result : Except SyntaxFault Expr} (ends : Ends task p result next) :
    Ends (task.reworded f) (p.reworded f line) (result.map (Expr.reworded f)) (next.reworded f line) :=
  ends.carried (carries_reworded line keeps)

structure Reaches (p next : Parser) : Prop where
  suffix : next.rest <:+ p.rest
  lastLine : next.lastLine = p.lastLine

theorem Reaches.trans {p middle next : Parser} (first : p.Reaches middle) (second : middle.Reaches next) :
    p.Reaches next :=
  ⟨second.suffix.trans first.suffix, second.lastLine.trans first.lastLine⟩

theorem reaches_advance (p : Parser) : p.Reaches p.advance := by
  unfold advance
  split
  · exact ⟨List.suffix_refl _, rfl⟩
  · exact ⟨List.tail_suffix _, rfl⟩

theorem Ends.reaches {task : Task} {p next : Parser} {result : Except SyntaxFault Expr}
    (ends : Ends task p result next) : p.Reaches next := by
  -- What is deeper by a level has the same tokens ahead.
  have opened {p next : Parser} (inner : p.advance.enter.Reaches next) : p.Reaches next.leave :=
    p.reaches_advance.trans ⟨inner.suffix, inner.lastLine⟩
  induction ends with
  | prefixedDeep | groupDeep | literal => exact reaches_advance _
  | prefixedFault _ _ _ ih | prefixed _ _ _ ih | groupFault _ _ _ ih | unclosed _ _ _ _ ih => exact opened ih
  | group _ _ _ _ ih => exact (opened ih).trans (reaches_advance _)
  | unprefixed _ _ ih | firstFault _ _ ih => exact ih
  | first _ _ _ ihFirst ihMore => exact ihFirst.trans ihMore
  | operandFault _ _ ih => exact (reaches_advance _).trans ih
  | operand _ _ _ ihOperand ihMore => exact ((reaches_advance _).trans ihOperand).trans ihMore
  | nothing | finished => exact ⟨List.suffix_refl _, rfl⟩

end Parser

/-- The token at a position of a list, behind which an end is taken to follow on the last line. -/
def tokenAt (tokens : List Token) (k : Nat) : Token := tokens[k]?.getD (.finish (Parser.ofTokens tokens).lastLine)

theorem tokenAt_map (f : Token → Token) (tokens : List Token) (k : Nat) : tokenAt (tokens.map f) k =
    match tokens[k]? with
    | some t => f t
    | none => .finish ((tokens.getLast?.map fun t => (f t).line).getD 1) := by
  rw [tokenAt, List.getElem?_map, Parser.ofTokens, List.getLast?_map, Option.map_map]
  cases tokens[k]? <;> rfl

theorem symbol_tokenAt_map {f : Token → Token} (keeps : ∀ t, (f t).symbol = t.symbol) (tokens : List Token) (k : Nat) :
    (tokenAt (tokens.map f) k).symbol = (tokenAt tokens k).symbol := by
  rw [tokenAt_map, tokenAt]
  cases tokens[k]? with
  | none => rfl
  | some t => exact keeps t

theorem Parser.Reaches.peek_eq {tokens : List Token} {next : Parser} (reaches : (ofTokens tokens).Reaches next) :
    next.peek = tokenAt tokens (tokens.length - next.rest.length) := by
  obtain ⟨⟨front, split⟩, line⟩ := reaches
  have whole : tokens = front ++ next.rest := split.symm
  have length : tokens.length - next.rest.length = front.length := by
    rw [whole, List.length_append, Nat.add_sub_cancel]
  have found : tokens[front.length]? = next.rest.head? := by
    rw [whole, List.getElem?_append_right (Nat.le_refl _), Nat.sub_self, List.head?_eq_getElem?]
  rw [length, tokenAt, found, ← line, peek, List.headD_eq_head?_getD]

namespace Expr

variable {f : Token → Token}

def stop (tokens : List Token) : Nat :=
  tokens.length - ((Parser.ofTokens tokens).rule .equality).next.rest.length

theorem ofTokens_eq (tokens : List Token) : ofTokens tokens =
    match ((Parser.ofTokens tokens).rule .equality).result with
    | .error fault => .error ⟨fault, tokenAt tokens (stop tokens)⟩
    | .ok e =>
      if (tokenAt tokens (stop tokens)).isFinish then .ok e
      else .error ⟨.expectedFinish, tokenAt tokens (stop tokens)⟩ := by
  have reaches := (Parser.ends_rule .equality (Parser.ofTokens tokens)).reaches
  rw [stop, ← reaches.peek_eq]
  rfl

structure Reparses (f : Token → Token) (tokens : List Token) : Prop where
  stop : stop (tokens.map f) = stop tokens
  parsed : ∀ e, ofTokens tokens = .ok e → ofTokens (tokens.map f) = .ok (e.reworded f)
  rejected : ∀ err, ofTokens tokens = .error err → err.token = tokenAt tokens (Expr.stop tokens) ∧
    ofTokens (tokens.map f) = .error ⟨err.fault, tokenAt (tokens.map f) (Expr.stop tokens)⟩
  told : tokenAt (tokens.map f) (Expr.stop tokens) =
    match tokens[Expr.stop tokens]? with
    | some t => f t
    | none => .finish ((tokens.getLast?.map fun t => (f t).line).getD 1)

theorem reparses (keeps : ∀ t, (f t).symbol = t.symbol) (tokens : List Token) : Reparses f tokens := by
  let line := (Parser.ofTokens (tokens.map f)).lastLine
  have answer := ((Parser.ends_rule .equality (Parser.ofTokens tokens)).reworded line keeps).answers
  have start : (Parser.ofTokens tokens).reworded f line = Parser.ofTokens (tokens.map f) := rfl
  simp only [Parser.Task.reworded, start, Parser.Answers] at answer
  have same : stop (tokens.map f) = stop tokens := by
    rw [stop, answer.2, stop, Parser.reworded, List.length_map, List.length_map]
  -- Both parses stop in front of the same position, so what is left is whether an end stands there.
  have finish := Token.isFinish_congr (symbol_tokenAt_map keeps tokens (stop tokens))
  have ends : (∀ e, ofTokens tokens = .ok e → ofTokens (tokens.map f) = .ok (e.reworded f)) ∧
      ∀ err, ofTokens tokens = .error err → err.token = tokenAt tokens (stop tokens) ∧
        ofTokens (tokens.map f) = .error ⟨err.fault, tokenAt (tokens.map f) (stop tokens)⟩ := by
    rw [ofTokens_eq tokens, ofTokens_eq (tokens.map f), answer.1, same, finish]
    cases ((Parser.ofTokens tokens).rule .equality).result with
    | error fault =>
      constructor
      · intro e parsed
        cases parsed
      · intro err rejected
        cases rejected
        exact ⟨rfl, rfl⟩
    | ok e =>
      simp only [Except.map]
      split
      · constructor
        · intro other parsed
          cases parsed
          rfl
        · intro err rejected
          cases rejected
      · constructor
        · intro other parsed
          cases parsed
        · intro err rejected
          cases rejected
          exact ⟨rfl, rfl⟩
  exact ⟨same, ends.1, ends.2, tokenAt_map f tokens _⟩

structure Reevaluates (f : Token → Token) (e : Expr) : Prop where
  value : ∀ v, e.evaluate = .ok v → (e.reworded f).evaluate = .ok v
  error : ∀ err, e.evaluate = .error err → ∃ failure, err = failure.error ∧
    (e.reworded f).evaluate = .error (failure.reworded f).error ∧
    e.outcome .values = .error failure ∧ (e.reworded f).outcome .values = .error (failure.reworded f) ∧
    e.operatorAt? failure.path = some failure.operator ∧
    (e.reworded f).operatorAt? failure.path = some (f failure.operator)

theorem reevaluates (keeps : ∀ t, (f t).symbol = t.symbol) (e : Expr) : Reevaluates f e := by
  have again := e.outcome_reworded .values keeps
  constructor
  · intro v evaluated
    rw [evaluate_eq_outcome, mapError_eq_ok_iff] at evaluated ⊢
    rw [again, evaluated]
    rfl
  · intro err failed
    rw [evaluate_eq_outcome] at failed
    obtain ⟨failure, first, rfl⟩ := mapError_eq_error_iff.mp failed
    have second : (e.reworded f).outcome .values = .error (failure.reworded f) := by rw [again, first]; rfl
    refine ⟨failure, rfl, ?_, first, second, (fails_of_outcome first).operatorAt, (fails_of_outcome second).operatorAt⟩
    rw [evaluate_eq_outcome, second]
    rfl

end Expr

def Diagnostic.unlined (d : Diagnostic) : Diagnostic := { d with line := 0 }

theorem location_tokenAt_unlined (tokens : List Token) (k : Nat) :
    (tokenAt (tokens.map Token.unlined) k).location = (tokenAt tokens k).location := by
  rw [tokenAt_map, tokenAt]
  cases tokens[k]? <;> rfl

theorem map_unlined_of_lexemes {tokens others : List Token}
    (lexemes : ∀ t ∈ tokens, Lexeme t.lexeme.toList t.symbol)
    (lexemesOther : ∀ t ∈ others, Lexeme t.lexeme.toList t.symbol)
    (same : tokens.map Token.lexeme = others.map Token.lexeme) :
    tokens.map Token.unlined = others.map Token.unlined := by
  induction tokens generalizing others with
  | nil =>
    rw [List.map_nil, eq_comm, List.map_eq_nil_iff] at same
    rw [same]
  | cons t tokens ih =>
    obtain ⟨u, rest, rfl, spelled, more⟩ := List.map_eq_cons_iff.mp same.symm
    rw [List.forall_mem_cons] at lexemes lexemesOther
    have symbol : t.symbol = u.symbol := by
      apply Lexeme.symbol_unique lexemes.1
      rw [← spelled]
      exact lexemesOther.1
    have first : t.unlined = u.unlined := by
      rw [Token.unlined, Token.unlined, symbol, spelled]
    rw [List.map_cons, List.map_cons, first, ih lexemes.2 lexemesOther.2 more.symm]

namespace Scan

theorem tokens_unlined_of_lexemes {source other : String}
    (same : (ofText source).tokens.map Token.lexeme = (ofText other).tokens.map Token.lexeme) :
    (ofText source).tokens.map Token.unlined = (ofText other).tokens.map Token.unlined := by
  obtain ⟨front, last, split, ended, lexemes⟩ := tokens_ends source
  obtain ⟨frontOther, lastOther, splitOther, endedOther, lexemesOther⟩ := tokens_ends other
  rw [split, splitOther, List.map_append, List.map_append] at same
  have equal := (List.append_inj' same rfl).1
  have finish : last.unlined = lastOther.unlined := by
    obtain ⟨symbol, lexeme⟩ := Prod.mk.inj (ended.trans endedOther.symm)
    rw [Token.unlined, Token.unlined, symbol, lexeme]
  rw [split, splitOther, List.map_append, List.map_append, map_unlined_of_lexemes lexemes lexemesOther equal,
    List.map_singleton, List.map_singleton, finish]

end Scan

namespace Run

def resultOf (tokens : List Token) : Except Diagnostics Value :=
  match Expr.ofTokens tokens with
  | .error err => .error [err.diagnostic]
  | .ok e => e.evaluate.mapError fun err => [err.diagnostic]

theorem result_eq_resultOf {α : Type} {observe : Expr → α} {source : String}
    (clean : (Scan.ofText source).errors = []) :
    (ofText observe source).result = resultOf (Scan.ofText source).tokens := by
  unfold ofText resultOf
  simp only [clean]
  cases Expr.ofTokens (Scan.ofText source).tokens <;> rfl

def unlined (result : Except Diagnostics Value) : Except Diagnostics Value :=
  result.mapError (List.map Diagnostic.unlined)

theorem resultOf_unlined (tokens : List Token) :
    unlined (resultOf (tokens.map Token.unlined)) = unlined (resultOf tokens) := by
  obtain ⟨-, parsed, rejected, -⟩ := Expr.reparses (f := Token.unlined) (fun _ => rfl) tokens
  unfold resultOf
  cases answer : Expr.ofTokens tokens with
  | error err =>
    obtain ⟨told, again⟩ := rejected err answer
    rw [again]
    show Except.error [_] = Except.error [_]
    simp only [Diagnostic.unlined, SyntaxError.diagnostic, location_tokenAt_unlined, told]
  | ok e =>
    rw [parsed e answer]
    simp only [Expr.evaluate_eq_outcome, e.outcome_reworded .values (f := Token.unlined) fun _ => rfl]
    cases e.outcome .values <;> rfl

theorem result_of_lexemes {α β : Type} (observe : Expr → α) (observeOther : Expr → β) {source other : String}
    (clean : (Scan.ofText source).errors = []) (cleanOther : (Scan.ofText other).errors = [])
    (same : (Scan.ofText source).tokens.map Token.lexeme = (Scan.ofText other).tokens.map Token.lexeme) :
    unlined (ofText observe source).result = unlined (ofText observeOther other).result := by
  rw [result_eq_resultOf clean, result_eq_resultOf cleanOther, ← resultOf_unlined,
    Scan.tokens_unlined_of_lexemes same, resultOf_unlined]

/-- Reworded tokens are parsed as the tokens are, into the tree with reworded operators or up to the same place for the
same reason, and the tree comes to the same value or fails at the same place. Texts without lexical errors whose tokens
have the same lexemes, and so the same symbols, come to the same value or to diagnostics that differ in lines alone. -/
theorem symbols_decide_result :
    (∀ f : Token → Token, (∀ t, (f t).symbol = t.symbol) →
      (∀ tokens, Expr.Reparses f tokens) ∧ ∀ e, Expr.Reevaluates f e) ∧
    ∀ source other, (Scan.ofText source).errors = [] → (Scan.ofText other).errors = [] →
      (Scan.ofText source).tokens.map Token.lexeme = (Scan.ofText other).tokens.map Token.lexeme →
      ∀ {α β : Type} (observe : Expr → α) (observeOther : Expr → β),
        unlined (ofText observe source).result = unlined (ofText observeOther other).result := by
  constructor
  · intro f keeps
    exact ⟨Expr.reparses keeps, Expr.reevaluates keeps⟩
  · intro source other clean cleanOther same α β observe observeOther
    exact result_of_lexemes observe observeOther clean cleanOther same

def blurred (t : Token) : Token := ⟨t.symbol, "?", t.line + 7⟩

theorem spread_symbols_decide_result :
    (∀ t, (blurred t).symbol = t.symbol) ∧
      Expr.Reparses blurred (Scan.ofText "1 +\n -\"a\" // b").tokens ∧
      (Scan.ofText "1 +\n -\"a\" // b").errors = [] ∧ (Scan.ofText "1+-\"a\"").errors = [] ∧
      (Scan.ofText "1 +\n -\"a\" // b").tokens.map Token.lexeme = (Scan.ofText "1+-\"a\"").tokens.map Token.lexeme ∧
      unlined (ofText id "1 +\n -\"a\" // b").result = unlined (ofText id "1+-\"a\"").result := by
  have keeps (t : Token) : (blurred t).symbol = t.symbol := rfl
  have clean : (Scan.ofText "1 +\n -\"a\" // b").errors = [] := by decide +kernel
  have cleanOther : (Scan.ofText "1+-\"a\"").errors = [] := by decide +kernel
  have same : (Scan.ofText "1 +\n -\"a\" // b").tokens.map Token.lexeme =
      (Scan.ofText "1+-\"a\"").tokens.map Token.lexeme := by decide +kernel
  obtain ⟨reworded, texts⟩ := symbols_decide_result
  exact ⟨keeps, (reworded blurred keeps).1 _, clean, cleanOther, same, texts _ _ clean cleanOther same id id⟩

end Run

end Reckon
