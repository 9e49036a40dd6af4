import Reckon.Proofs.Grammar
import Reckon.Proofs.Parsing

namespace Reckon

namespace Parser

def unread (p : Parser) (tokens : List Token) : Parser := { p with rest := tokens ++ p.rest }

@[simp] theorem depth_unread (p : Parser) (tokens : List Token) : (p.unread tokens).depth = p.depth := rfl

@[simp] theorem unread_unread (p : Parser) (first second : List Token) :
    (p.unread second).unread first = p.unread (first ++ second) := by
  simp [unread]

@[simp] theorem peek_unread (p : Parser) (token : Token) (tokens : List Token) :
    (p.unread (token :: tokens)).peek = token := rfl

theorem advance_unread (p : Parser) {token : Token} (tokens : List Token) (going : token.isFinish = false) :
    (p.unread (token :: tokens)).advance = p.unread tokens := by
  rw [advance, peek_unread, going]
  rfl

@[simp] theorem depth_advance (p : Parser) : p.advance.depth = p.depth := by
  unfold advance
  split <;> rfl

theorem unread_advance {p : Parser} (going : p.peek.isFinish = false) : p.advance.unread [p.peek] = p := by
  obtain ⟨rest, lastLine, depth⟩ := p
  cases rest with
  | nil => cases going
  | cons token rest =>
    change token.isFinish = false at going
    simp [advance, peek, unread, going]

@[simp] theorem enter_unread (p : Parser) (tokens : List Token) :
    (p.unread tokens).enter = p.enter.unread tokens := rfl

@[simp] theorem leave_unread (p : Parser) (tokens : List Token) :
    (p.unread tokens).leave = p.leave.unread tokens := rfl

@[simp] theorem leave_enter (p : Parser) : p.enter.leave = p := rfl

def Stops (p : Parser) (q : Precedence) : Prop := ∀ r, p.peek.precedence? = some r → r.level < q.level

theorem Stops.tighter {p : Parser} {q r : Precedence} (stops : p.Stops q) (tight : q.level ≤ r.level) :
    p.Stops r :=
  fun s found => Nat.lt_of_lt_of_le (stops s found) tight

theorem Stops.unfound {p : Parser} {q : Precedence} (stops : p.Stops q) : p.peek.precedence? ≠ some q :=
  fun found => Nat.lt_irrefl _ (stops q found)

theorem stops_of_le (p : Parser) {q : Precedence} (tight : Precedence.unary.level ≤ q.level) : p.Stops q :=
  fun _ found => Nat.lt_of_lt_of_le (Token.level_lt_of_precedence? found) tight

theorem stops_of_unfound {p : Parser} {q : Precedence} (loose : q.level < Precedence.unary.level)
    (stops : p.Stops q.tighter) (unfound : p.peek.precedence? ≠ some q) : p.Stops q := by
  intro r found
  have near := stops r found
  have next := Precedence.level_tighter loose
  have other : r.level ≠ q.level := fun same => unfound (Precedence.eq_of_level_eq same ▸ found)
  omega

theorem stops_operator (p : Parser) {operator : Token} {q r : Precedence} (tokens : List Token)
    (found : operator.precedence? = some q) (tight : q.level < r.level) :
    (p.unread (operator :: tokens)).Stops r := by
  intro s same
  rw [peek_unread, found] at same
  cases same
  exact tight

/-- The tokens read between two states spell a tree within the depth left, and what follows them stops it. A
chain has its first tokens behind it. -/
def Completes : Task → Parser → Expr → Parser → Prop
  | .rule q, p, e, next => ∃ read, p = next.unread read ∧ e.Spells (maxDepth - p.depth) q read ∧ next.Stops q
  | .chain q left, p, e, next => q.level < Precedence.unary.level → p.Stops q.tighter →
      ∀ before, left.Spells (maxDepth - p.depth) q before →
        ∃ read, p = next.unread read ∧ e.Spells (maxDepth - p.depth) q (before ++ read) ∧ next.Stops q

theorem Completes.opened {p next : Parser} {q : Precedence} {e : Expr} (going : p.peek.isFinish = false)
    (room : p.depth < maxDepth) (completes : Completes (.rule q) p.advance.enter e next) :
    ∃ read depth, p = next.leave.unread (p.peek :: read) ∧ maxDepth - p.depth = depth + 1 ∧
      e.Spells depth q read := by
  obtain ⟨read, before, spells, -⟩ := completes
  have left : p.advance = next.leave.unread read := by
    rw [← leave_enter p.advance, before, leave_unread]
  refine ⟨read, maxDepth - (p.depth + 1), ?_, by omega, ?_⟩
  · calc
      p = p.advance.unread [p.peek] := (unread_advance going).symm
      _ = next.leave.unread (p.peek :: read) := by rw [left, unread_unread]; rfl
  · rw [← depth_advance p]
    exact spells

theorem Ends.completes {task : Task} {p next : Parser} {result : Except SyntaxFault Expr}
    (ends : Ends task p result next) : p.depth ≤ maxDepth → ∀ e, result = .ok e → Completes task p e next := by
  induction ends with
  | prefixedDeep | prefixedFault | groupDeep | groupFault | unclosed | nothing | firstFault | operandFault =>
    intro _ e ok
    cases ok
  | @prefixed p next inner operator room _ ih =>
    intro _ e ok
    cases ok
    have going := Token.not_finish_of_isPrefixOperator operator
    have deeper : p.advance.enter.depth ≤ maxDepth := by rw [enter, depth_advance]; exact room
    obtain ⟨read, depth, before, left, spells⟩ := (ih deeper inner rfl).opened going room
    refine ⟨p.peek :: read, before, ?_, stops_of_le _ (Nat.le_refl _)⟩
    rw [left]
    exact .unary operator spells
  | unprefixed _ _ ih =>
    intro within e ok
    obtain ⟨read, before, spells, -⟩ := ih within e ok
    exact ⟨read, before, spells.loosen (by decide), stops_of_le _ (Nat.le_refl _)⟩
  | @group p next inner opens room _ closes ih =>
    intro _ e ok
    cases ok
    have going : p.peek.isFinish = false := by simp [Token.isFinish, opens]
    have closing : next.leave.peek.isFinish = false := by simp [Token.isFinish, closes]
    have deeper : p.advance.enter.depth ≤ maxDepth := by rw [enter, depth_advance]; exact room
    obtain ⟨read, depth, before, left, spells⟩ := (ih deeper inner rfl).opened going room
    refine ⟨p.peek :: read ++ [next.leave.peek], ?_, ?_, stops_of_le _ (by decide)⟩
    · calc
        p = next.leave.unread (p.peek :: read) := before
        _ = (next.leave.advance.unread [next.leave.peek]).unread (p.peek :: read) := by
          rw [unread_advance closing]
        _ = next.leave.advance.unread (p.peek :: read ++ [next.leave.peek]) := unread_unread _ _ _
    · rw [left]
      exact .group opens closes spells
  | @literal p v denotes =>
    intro _ e ok
    cases ok
    have going := Token.not_finish_of_literal? denotes
    refine ⟨[p.peek], (unread_advance going).symm, ?_, stops_of_le _ (by decide)⟩
    exact .literal (Token.literal?_eq_some_iff.mp denotes)
  | @first q p middle next left result loose _ _ ihFirst ihMore =>
    intro within e ok
    have level := Precedence.level_tighter loose
    obtain ⟨read, before, spells, stops⟩ := ihFirst within left rfl
    have same : middle.depth = p.depth := by rw [before, depth_unread]
    obtain ⟨more, after, longer, ends⟩ :=
      ihMore (same ▸ within) e ok loose stops read (same ▸ spells.loosen (by omega))
    refine ⟨read ++ more, ?_, same ▸ longer, ends⟩
    rw [before, after, unread_unread]
  | @operand q p middle next left right result found _ _ ihOperand ihMore =>
    intro within e ok loose stops before spells
    have going := Token.not_finish_of_precedence? found
    obtain ⟨read, start, spellsRight, stopsRight⟩ := ihOperand (by simpa using within) right rfl
    have same : middle.depth = p.depth := by rw [← depth_advance p, start, depth_unread]
    rw [depth_advance] at spellsRight
    obtain ⟨more, after, longer, ends⟩ :=
      ihMore (same ▸ within) e ok loose stopsRight _ (same ▸ spells.binary found spellsRight)
    refine ⟨p.peek :: read ++ more, ?_, by simpa [same] using longer, ends⟩
    calc
      p = p.advance.unread [p.peek] := (unread_advance going).symm
      _ = next.unread (p.peek :: read ++ more) := by rw [start, after, unread_unread, unread_unread]; rfl
  | finished unfound =>
    intro _ e ok loose stops before spells
    cases ok
    exact ⟨[], rfl, by simpa using spells, stops_of_unfound loose stops unfound⟩

theorem Ends.peek_of_primary {p next : Parser} {result : Except SyntaxFault Expr}
    (ends : Ends (.rule .primary) p result next) (begun : result ≠ .error .expectedExpression) :
    p.peek.isPrefixOperator = false := by
  cases ends with
  | groupDeep opens | groupFault opens | group opens | unclosed opens =>
    simp [Token.isPrefixOperator, opens]
  | literal denotes =>
    rw [Token.isPrefixOperator, Token.literal?_eq_some_iff.mp denotes]
    rename_i v
    cases v with
    | boolean b => cases b <;> rfl
    | _ => rfl
  | nothing => exact absurd rfl begun
  | firstFault loose | first loose => exact absurd loose (by decide)

/-- A rule reads the tree wherever its tokens stand ahead, the depth allows it and what follows stops it. -/
def Accepts (e : Expr) (tokens : List Token) (q : Precedence) : Prop :=
  ∀ next : Parser, next.depth + e.nesting ≤ maxDepth → next.Stops q →
    Ends (.rule q) (next.unread tokens) (.ok e) next

def Leads (e : Expr) (tokens : List Token) (q : Precedence) : Prop :=
  ∀ (p next : Parser) (result : Except SyntaxFault Expr), p.depth + e.nesting ≤ maxDepth → p.Stops q.tighter →
    Ends (.chain q e) p result next → Ends (.rule q) (p.unread tokens) result next

theorem Leads.accepts {e : Expr} {tokens : List Token} {q : Precedence} (loose : q.level < Precedence.unary.level)
    (leads : Leads e tokens q) : Accepts e tokens q := by
  intro next within stops
  have level := Precedence.level_tighter loose
  exact leads next next (.ok e) within (stops.tighter (by omega)) (.finished stops.unfound)

theorem Accepts.leads {e : Expr} {tokens : List Token} {q : Precedence} (loose : q.level < Precedence.unary.level)
    (accepts : Accepts e tokens q.tighter) : Leads e tokens q :=
  fun p _ _ within stops more => .first loose (accepts p within stops) more

theorem Accepts.loosen {e : Expr} {tokens : List Token} {q r : Precedence} (accepts : Accepts e tokens r)
    (looser : q.level ≤ r.level) : Accepts e tokens q := by
  apply Precedence.descend looser accepts
  · intro p loose inner
    exact (inner.leads loose).accepts loose
  · intro inner next within _
    have ends := inner next within (stops_of_le _ (by decide))
    exact .unprefixed (ends.peek_of_primary nofun) ends

theorem Accepts.leads_of_le {e : Expr} {tokens : List Token} {q : Precedence}
    (accepts : Accepts e tokens e.precedence)
    (leads : e.precedence.level < Precedence.unary.level → Leads e tokens e.precedence)
    (loose : q.level < Precedence.unary.level) (looser : q.level ≤ e.precedence.level) : Leads e tokens q := by
  by_cases same : q.level = e.precedence.level
  · rw [Precedence.eq_of_level_eq same] at loose ⊢
    exact leads loose
  · have level := Precedence.level_tighter loose
    exact (accepts.loosen (by omega)).leads loose

theorem Leads.binary {left right : Expr} {operator : Token} {before after : List Token} {q : Precedence}
    (found : operator.precedence? = some q) (leads : Leads left before q)
    (accepts : Accepts right after q.tighter) :
    Leads (.binary left operator right) (before ++ operator :: after) q := by
  intro p next result within stops more
  have level := Precedence.level_tighter (Token.level_lt_of_precedence? found)
  simp only [Expr.nesting] at within
  have operand := accepts p (by omega) stops
  rw [← advance_unread p after (Token.not_finish_of_precedence? found)] at operand
  have chain : Ends (.chain q left) (p.unread (operator :: after)) result next :=
    .operand (by rw [peek_unread, found]) operand more
  rw [← unread_unread]
  exact leads _ _ _ (by rw [depth_unread]; omega) (stops_operator p after found (by omega)) chain

theorem accepts_of_reads {e : Expr} {tokens : List Token} (reads : e.Reads tokens) (bound : e.Bound) :
    Accepts e tokens e.precedence ∧
      (e.precedence.level < Precedence.unary.level → Leads e tokens e.precedence) := by
  induction reads with
  | literal same =>
    refine ⟨?_, fun loose : Precedence.primary.level < _ => absurd loose (by decide)⟩
    intro next _ _
    have denotes := Token.literal?_eq_some_iff.mpr same
    have ends : Ends (.rule .primary) (next.unread [_]) _ _ := .literal denotes
    rwa [advance_unread next [] (Token.not_finish_of_literal? denotes)] at ends
  | @group inner opening closing tokens opens closes _ ih =>
    refine ⟨?_, fun loose : Precedence.primary.level < _ => absurd loose (by decide)⟩
    intro next within _
    have going : opening.isFinish = false := by simp [Token.isFinish, opens]
    have closed : closing.isFinish = false := by simp [Token.isFinish, closes]
    have stops : (next.enter.unread [closing]).Stops .equality := by
      intro r found
      simp [Token.precedence?, closes, Mark.precedence?] at found
    have body := (ih bound).1.loosen (q := .equality) (by cases inner.precedence <;> decide)
      (next.enter.unread [closing]) (by simp only [Expr.nesting, enter, depth_unread] at within ⊢; omega) stops
    rw [unread_unread, ← enter_unread, ← advance_unread next _ going] at body
    have opened : (next.unread (opening :: (tokens ++ [closing]))).peek.symbol = .mark .leftParen := opens
    have ends := Ends.group opened (by simp only [Expr.nesting, depth_unread] at within ⊢; omega) body closes
    rwa [leave_unread, leave_enter, advance_unread _ _ closed] at ends
  | @unary operator operand tokens _ ih =>
    refine ⟨?_, fun loose : Precedence.unary.level < _ => absurd loose (by decide)⟩
    obtain ⟨stands, tight, boundInner⟩ := bound
    intro next within _
    have body := (ih boundInner).1.loosen tight next.enter
      (by simp only [Expr.nesting, enter] at within ⊢; omega) (stops_of_le _ (Nat.le_refl _))
    rw [← enter_unread, ← advance_unread next _ (Token.not_finish_of_isPrefixOperator stands)] at body
    have stood : (next.unread (operator :: tokens)).peek.isPrefixOperator = true := stands
    exact Ends.prefixed stood (by simp only [Expr.nesting, depth_unread] at within ⊢; omega) body
  | @binary left right operator before after _ _ ihLeft ihRight =>
    obtain ⟨q, found, tightLeft, tightRight, boundLeft, boundRight⟩ := bound
    have loose := Token.level_lt_of_precedence? found
    have level := Precedence.level_tighter loose
    have first := ihLeft boundLeft
    have second := (ihRight boundRight).1.loosen (q := q.tighter) (by omega)
    have leads := (first.1.leads_of_le first.2 loose tightLeft).binary found second
    rw [Expr.precedence_binary found]
    exact ⟨leads.accepts loose, fun _ => leads⟩

def Refuses (e : Expr) (tokens : List Token) (q : Precedence) : Prop :=
  ∀ p : Parser, p.depth ≤ maxDepth → maxDepth < p.depth + e.nesting →
    ∃ next, Ends (.rule q) (p.unread tokens) (.error .tooDeeplyNested) next

theorem Refuses.loosen {e : Expr} {tokens : List Token} {q r : Precedence} (refuses : Refuses e tokens r)
    (looser : q.level ≤ r.level) : Refuses e tokens q := by
  apply Precedence.descend looser refuses
  · intro s loose inner p within deep
    obtain ⟨next, ends⟩ := inner p within deep
    exact ⟨next, .firstFault loose ends⟩
  · intro inner p within deep
    obtain ⟨next, ends⟩ := inner p within deep
    exact ⟨next, .unprefixed (ends.peek_of_primary nofun) ends⟩

theorem refuses_of_reads {e : Expr} {tokens : List Token} (reads : e.Reads tokens) (bound : e.Bound) :
    Refuses e tokens e.precedence := by
  induction reads with
  | literal =>
    intro p within deep
    exact absurd within (Nat.not_le.mpr deep)
  | @group inner opening closing tokens opens closes _ ih =>
    intro p within deep
    have going : opening.isFinish = false := by simp [Token.isFinish, opens]
    have opened : (p.unread (opening :: (tokens ++ [closing]))).peek.symbol = .mark .leftParen := opens
    by_cases room : p.depth < maxDepth
    · have refuses := (ih bound).loosen (q := .equality) (by cases inner.precedence <;> decide)
      obtain ⟨next, body⟩ := refuses (p.enter.unread [closing]) room
        (by simp only [Expr.nesting, enter, depth_unread] at deep ⊢; omega)
      rw [unread_unread, ← enter_unread, ← advance_unread p _ going] at body
      exact ⟨_, .groupFault opened room body⟩
    · exact ⟨_, .groupDeep opened (Nat.not_lt.mp room)⟩
  | @unary operator operand tokens _ ih =>
    obtain ⟨stands, tight, boundInner⟩ := bound
    intro p within deep
    have stood : (p.unread (operator :: tokens)).peek.isPrefixOperator = true := stands
    by_cases room : p.depth < maxDepth
    · obtain ⟨next, body⟩ := (ih boundInner).loosen tight p.enter room
        (by simp only [Expr.nesting, enter] at deep ⊢; omega)
      rw [← enter_unread, ← advance_unread p _ (Token.not_finish_of_isPrefixOperator stands)] at body
      exact ⟨_, .prefixedFault stood room body⟩
    · exact ⟨_, .prefixedDeep stood (Nat.not_lt.mp room)⟩
  | @binary left right operator before after readsLeft _ ihLeft ihRight =>
    obtain ⟨q, found, tightLeft, tightRight, boundLeft, boundRight⟩ := bound
    have loose := Token.level_lt_of_precedence? found
    have level := Precedence.level_tighter loose
    rw [Expr.precedence_binary found]
    intro p within deep
    rw [← unread_unread]
    by_cases deepLeft : maxDepth < p.depth + left.nesting
    · exact (ihLeft boundLeft).loosen tightLeft (p.unread (operator :: after)) within deepLeft
    · -- The left operand is read, and its chain ends in the fault of the right one.
      obtain ⟨next, body⟩ := (ihRight boundRight).loosen (q := q.tighter) (by omega) p within
        (by simp only [Expr.nesting] at deep; omega)
      rw [← advance_unread p _ (Token.not_finish_of_precedence? found)] at body
      have chain : Ends (.chain q left) (p.unread (operator :: after)) (.error .tooDeeplyNested) next :=
        .operandFault (by rw [peek_unread, found]) body
      have first := accepts_of_reads readsLeft boundLeft
      have leads := first.1.leads_of_le first.2 loose tightLeft
      exact ⟨next, leads _ _ _ (by rw [depth_unread]; omega) (stops_operator p after found (by omega)) chain⟩

end Parser

def beforeFinish (tokens : List Token) : List Token := tokens.takeWhile (!·.isFinish)

theorem Parser.ofTokens_eq_unread (tokens : List Token) :
    ∃ stop : Parser, stop.depth = 0 ∧ stop.peek.isFinish = true ∧
      ofTokens tokens = stop.unread (beforeFinish tokens) := by
  refine ⟨{ ofTokens tokens with rest := tokens.dropWhile (!·.isFinish) }, rfl, ?_, ?_⟩
  · cases ahead : tokens.dropWhile (!·.isFinish) with
    | nil => rfl
    | cons token rest =>
      have ends := List.head_dropWhile_not (p := fun t : Token => !t.isFinish) (l := tokens) (by simp [ahead])
      simp only [ahead, List.head_cons] at ends
      simpa [peek] using ends
  · simp [unread, beforeFinish, List.takeWhile_append_dropWhile, ofTokens]

theorem Parser.stops_finish {p : Parser} (ends : p.peek.isFinish = true) (q : Precedence) : p.Stops q := by
  intro r found
  rw [Token.not_finish_of_precedence? found] at ends
  cases ends

theorem beforeFinish_unread {stop : Parser} {read : List Token} (ends : stop.peek.isFinish = true)
    (going : ∀ token ∈ read, token.isFinish = false) : beforeFinish (stop.unread read).rest = read := by
  have none : beforeFinish stop.rest = [] := by
    cases ahead : stop.rest with
    | nil => rfl
    | cons token rest =>
      have finish : token.isFinish = true := by simpa [Parser.peek, ahead] using ends
      simp [beforeFinish, finish]
  have all : ∀ token ∈ read, (!token.isFinish) = true := by
    intro token member
    rw [going token member]
    rfl
  have first : (read ++ stop.rest).takeWhile (!·.isFinish) = read ++ stop.rest.takeWhile (!·.isFinish) :=
    List.takeWhile_append_of_pos all
  exact first.trans (by rw [← beforeFinish, none, List.append_nil])

namespace Expr

theorem ofTokens_eq_ok_iff {tokens : List Token} {e : Expr} :
    ofTokens tokens = .ok e ↔ e.Spells Parser.maxDepth .equality (beforeFinish tokens) := by
  have ends := Parser.ends_rule .equality (Parser.ofTokens tokens)
  constructor
  · intro parsed
    unfold ofTokens at parsed
    dsimp only at parsed
    split at parsed
    · cases parsed
    · rename_i read answer
      split at parsed
      · rename_i finish
        cases parsed
        obtain ⟨before, start, spells, -⟩ := (answer ▸ ends).completes (Nat.zero_le _) e rfl
        have same : beforeFinish tokens = before := by
          have rest := beforeFinish_unread finish (spells.reads.not_finish spells.bound)
          rwa [← start] at rest
        rw [same]
        exact spells
      · cases parsed
  · intro spells
    obtain ⟨stop, depth, finish, start⟩ := Parser.ofTokens_eq_unread tokens
    have accepts := (Parser.accepts_of_reads spells.reads spells.bound).1.loosen spells.tight
    have answer := (accepts stop (by rw [depth, Nat.zero_add]; exact spells.shallow)
      (Parser.stops_finish finish _)).answers
    rw [← start] at answer
    simp only [Parser.Answers] at answer
    simp [ofTokens, answer.1, answer.2, finish]

theorem eq_of_ofTokens {tokens : List Token} {e other : Expr} (parsed : ofTokens tokens = .ok e)
    (reads : other.Reads (beforeFinish tokens)) (bound : other.Bound) : other = e := by
  have loosest : Precedence.equality.level ≤ other.precedence.level := by cases other.precedence <;> decide
  by_cases shallow : other.nesting ≤ Parser.maxDepth
  · have again := ofTokens_eq_ok_iff.mpr ⟨reads, bound, loosest, shallow⟩
    rw [parsed] at again
    exact (Except.ok.inj again).symm
  · obtain ⟨stop, depth, -, start⟩ := Parser.ofTokens_eq_unread tokens
    obtain ⟨next, ends⟩ := (Parser.refuses_of_reads reads bound).loosen loosest stop
      (by rw [depth]; exact Nat.zero_le _) (by rw [depth]; omega)
    have answer := ends.answers
    rw [← start] at answer
    simp only [Parser.Answers] at answer
    simp [ofTokens, answer.1] at parsed

/-- The accepted token lists are the phrases of the grammar in which at most 255 parentheses and prefix
operators are open around any token, and the tree of a phrase is the only one that reads as it. -/
theorem ofTokens_accepts_phrases (tokens : List Token) :
    ((∃ e, ofTokens tokens = .ok e) ↔ Phrase 255 .equality (beforeFinish tokens)) ∧
      ∀ e, ofTokens tokens = .ok e → e.Reads (beforeFinish tokens) ∧ e.Bound ∧
        ∀ other : Expr, other.Reads (beforeFinish tokens) → other.Bound → other = e := by
  constructor
  · constructor
    · rintro ⟨e, parsed⟩
      exact phrase_iff_spells.mpr ⟨e, ofTokens_eq_ok_iff.mp parsed⟩
    · intro phrase
      obtain ⟨e, spells⟩ := phrase_iff_spells.mp phrase
      exact ⟨e, ofTokens_eq_ok_iff.mpr spells⟩
  · intro e parsed
    have spells := ofTokens_eq_ok_iff.mp parsed
    exact ⟨spells.reads, spells.bound, fun other reads bound => eq_of_ofTokens parsed reads bound⟩

end Expr

end Reckon
