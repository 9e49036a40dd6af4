import Reckon.Expr.Precedence

namespace Reckon

/-- The token lists that the rule of a precedence derives with at most `depth` parentheses and prefix
operators open around any token. Operators of a chain open nothing. -/
inductive Phrase : Nat → Precedence → List Token → Prop
  | literal {depth : Nat} {token : Token} {v : Value} (denotes : token.literal? = some v) :
      Phrase depth .primary [token]
  | group {depth : Nat} {opening closing : Token} {inner : List Token}
      (opens : opening.symbol = .mark .leftParen) (closes : closing.symbol = .mark .rightParen)
      (phrase : Phrase depth .equality inner) : Phrase (depth + 1) .primary (opening :: inner ++ [closing])
  | primary {depth : Nat} {tokens : List Token} (phrase : Phrase depth .primary tokens) :
      Phrase depth .unary tokens
  | prefixed {depth : Nat} {operator : Token} {operand : List Token}
      (stands : operator.isPrefixOperator = true) (phrase : Phrase depth .unary operand) :
      Phrase (depth + 1) .unary (operator :: operand)
  | chain {depth : Nat} {q : Precedence} {first : List Token} {steps : List (Token × List Token)}
      (loose : q.level < Precedence.unary.level) (phrase : Phrase depth q.tighter first)
      (operators : ∀ step ∈ steps, step.1.precedence? = some q)
      (operands : ∀ step ∈ steps, Phrase depth q.tighter step.2) :
      Phrase depth q (first ++ steps.flatMap fun step => step.1 :: step.2)

def Value.symbol : Value → Symbol
  | number x => .number x
  | string s => .string s
  | boolean true => .keyword .true
  | boolean false => .keyword .false
  | nil => .keyword .nil

theorem Token.literal?_eq_some_iff {t : Token} {v : Value} : t.literal? = some v ↔ t.symbol = v.symbol := by
  constructor
  · intro found
    unfold literal? at found
    split at found <;> cases found <;> assumption
  · intro same
    unfold literal?
    rw [same]
    cases v with
    | boolean b => cases b <;> rfl
    | _ => rfl

theorem Token.level_lt_of_precedence? {t : Token} {q : Precedence} (found : t.precedence? = some q) :
    q.level < Precedence.unary.level := by
  obtain ⟨m, member, -⟩ := precedence?_eq_some_iff.mp found
  cases q with
  | unary | primary => cases member
  | _ => decide

namespace Precedence

theorem level_tighter {q : Precedence} (loose : q.level < unary.level) : q.tighter.level = q.level + 1 := by
  cases q <;> first | rfl | exact absurd loose (by decide)

theorem eq_of_level_eq {p q : Precedence} (same : p.level = q.level) : p = q := by
  cases p <;> cases q <;> first | rfl | exact absurd same (by decide)

theorem descend {motive : Precedence → Prop} {q r : Precedence} (looser : q.level ≤ r.level) (start : motive r)
    (chain : ∀ p, p.level < unary.level → motive p.tighter → motive p) (last : motive primary → motive unary) :
    motive q := by
  by_cases same : q.level = r.level
  · rwa [eq_of_level_eq same]
  · by_cases loose : q.level < unary.level
    · have next := level_tighter loose
      exact chain q loose (descend (by omega) start chain last)
    · have least : unary.level = 5 := rfl
      have greatest : primary.level = 6 := rfl
      have most : r.level ≤ primary.level := by cases r <;> decide
      rw [eq_of_level_eq (by omega : r.level = primary.level)] at start
      rw [eq_of_level_eq (by omega : q.level = unary.level)]
      exact last start
termination_by r.level - q.level

end Precedence

namespace Expr

/-- What is read of an expression in order, its groups in parentheses: every operator is the token kept in the
tree, and literals and parentheses are tokens of their symbols. -/
inductive Reads : Expr → List Token → Prop
  | literal {v : Value} {token : Token} (same : token.symbol = v.symbol) : Reads (.literal v) [token]
  | group {inner : Expr} {opening closing : Token} {tokens : List Token}
      (opens : opening.symbol = .mark .leftParen) (closes : closing.symbol = .mark .rightParen)
      (reads : Reads inner tokens) : Reads (.group inner) (opening :: tokens ++ [closing])
  | unary {operator : Token} {operand : Expr} {tokens : List Token} (reads : Reads operand tokens) :
      Reads (.unary operator operand) (operator :: tokens)
  | binary {left right : Expr} {operator : Token} {before after : List Token} (readsLeft : Reads left before)
      (readsRight : Reads right after) : Reads (.binary left operator right) (before ++ operator :: after)

/-- Operators are those of the grammar, and every operand binds tightly enough for its place. -/
def Bound : Expr → Prop
  | literal _ => True
  | group inner => inner.Bound
  | unary operator operand =>
    operator.isPrefixOperator = true ∧ Precedence.unary.level ≤ operand.precedence.level ∧ operand.Bound
  | binary left operator right =>
    ∃ q, operator.precedence? = some q ∧ q.level ≤ left.precedence.level ∧ q.level < right.precedence.level ∧
      left.Bound ∧ right.Bound

def nesting : Expr → Nat
  | literal _ => 0
  | group inner => inner.nesting + 1
  | unary _ operand => operand.nesting + 1
  | binary left _ right => max left.nesting right.nesting

structure Spells (depth : Nat) (q : Precedence) (e : Expr) (tokens : List Token) : Prop where
  reads : e.Reads tokens
  bound : e.Bound
  tight : q.level ≤ e.precedence.level
  shallow : e.nesting ≤ depth

theorem precedence_binary {left right : Expr} {operator : Token} {q : Precedence}
    (found : operator.precedence? = some q) : (binary left operator right).precedence = q := by
  simp [precedence, found]

theorem Reads.ne_nil {e : Expr} {tokens : List Token} (reads : e.Reads tokens) : tokens ≠ [] := by
  cases reads <;> simp

theorem Reads.not_finish {e : Expr} {tokens : List Token} (reads : e.Reads tokens) (bound : e.Bound) :
    ∀ token ∈ tokens, token.isFinish = false := by
  induction reads with
  | literal same =>
    intro token member
    rw [List.mem_singleton.mp member]
    exact Token.not_finish_of_literal? (Token.literal?_eq_some_iff.mpr same)
  | group opens closes _ ih =>
    intro token member
    simp only [List.cons_append, List.mem_cons, List.mem_append, List.not_mem_nil, or_false] at member
    rcases member with rfl | member | rfl
    · simp [Token.isFinish, opens]
    · exact ih bound token member
    · simp [Token.isFinish, closes]
  | unary _ ih =>
    intro token member
    rcases List.mem_cons.mp member with rfl | member
    · exact Token.not_finish_of_isPrefixOperator bound.1
    · exact ih bound.2.2 token member
  | binary _ _ ihLeft ihRight =>
    obtain ⟨q, found, -, -, boundLeft, boundRight⟩ := bound
    intro token member
    rcases List.mem_append.mp member with member | member
    · exact ihLeft boundLeft token member
    · rcases List.mem_cons.mp member with rfl | member
      · exact Token.not_finish_of_precedence? found
      · exact ihRight boundRight token member

namespace Spells

variable {depth : Nat} {q : Precedence} {e left right : Expr} {tokens before after : List Token}

theorem loosen {r : Precedence} (spells : Spells depth q e tokens) (looser : r.level ≤ q.level) :
    Spells depth r e tokens :=
  ⟨spells.reads, spells.bound, Nat.le_trans looser spells.tight, spells.shallow⟩

theorem literal {v : Value} {token : Token} (same : token.symbol = v.symbol) :
    Spells depth .primary (.literal v) [token] :=
  ⟨.literal same, True.intro, Nat.le_refl _, Nat.zero_le _⟩

theorem group {opening closing : Token} (opens : opening.symbol = .mark .leftParen)
    (closes : closing.symbol = .mark .rightParen) (inner : Spells depth .equality e tokens) :
    Spells (depth + 1) .primary (.group e) (opening :: tokens ++ [closing]) :=
  ⟨.group opens closes inner.reads, inner.bound, Nat.le_refl _, Nat.succ_le_succ inner.shallow⟩

theorem unary {operator : Token} (stands : operator.isPrefixOperator = true)
    (operand : Spells depth .unary e tokens) :
    Spells (depth + 1) .unary (.unary operator e) (operator :: tokens) :=
  ⟨.unary operand.reads, ⟨stands, operand.tight, operand.bound⟩, Nat.le_refl _,
    Nat.succ_le_succ operand.shallow⟩

theorem binary {operator : Token} (found : operator.precedence? = some q)
    (spellsLeft : Spells depth q left before) (spellsRight : Spells depth q.tighter right after) :
    Spells depth q (.binary left operator right) (before ++ operator :: after) where
  reads := .binary spellsLeft.reads spellsRight.reads
  bound := by
    have next := Precedence.level_tighter (Token.level_lt_of_precedence? found)
    have tight := spellsRight.tight
    exact ⟨q, found, spellsLeft.tight, by omega, spellsLeft.bound, spellsRight.bound⟩
  tight := Nat.le_of_eq (congrArg Precedence.level (precedence_binary found).symm)
  shallow := Nat.max_le.mpr ⟨spellsLeft.shallow, spellsRight.shallow⟩

theorem chain (spells : Spells depth q e before) {steps : List (Token × List Token)}
    (operators : ∀ step ∈ steps, step.1.precedence? = some q)
    (operands : ∀ step ∈ steps, ∃ operand, Spells depth q.tighter operand step.2) :
    ∃ whole, Spells depth q whole (before ++ steps.flatMap fun step => step.1 :: step.2) := by
  induction steps generalizing e before with
  | nil => exact ⟨e, by simpa using spells⟩
  | cons step steps ih =>
    obtain ⟨operand, spelled⟩ := operands step List.mem_cons_self
    have longer := spells.binary (operators step List.mem_cons_self) spelled
    have rest := ih longer (fun s member => operators s (List.mem_cons_of_mem _ member))
      (fun s member => operands s (List.mem_cons_of_mem _ member))
    simpa using rest

end Spells

end Expr

namespace Phrase

variable {depth : Nat} {q : Precedence} {tokens before after : List Token}

theorem loosen {r : Precedence} (phrase : Phrase depth r tokens) (looser : q.level ≤ r.level) :
    Phrase depth q tokens := by
  apply Precedence.descend looser phrase
  · intro p loose inner
    simpa using @Phrase.chain depth p tokens [] loose inner (by simp) (by simp)
  · exact .primary

theorem snoc {operator : Token} (phrase : Phrase depth q before) (found : operator.precedence? = some q)
    (operand : Phrase depth q.tighter after) : Phrase depth q (before ++ operator :: after) := by
  have loose := Token.level_lt_of_precedence? found
  cases phrase with
  | literal => exact absurd loose (by decide)
  | group => exact absurd loose (by decide)
  | primary => exact absurd loose (by decide)
  | prefixed => exact absurd loose (by decide)
  | @chain _ _ first steps _ inner operators operands =>
    have longer := @Phrase.chain depth q first (steps ++ [(operator, after)]) loose inner
      (by
        intro step member
        rcases List.mem_append.mp member with member | member
        · exact operators step member
        · rw [List.mem_singleton.mp member]; exact found)
      (by
        intro step member
        rcases List.mem_append.mp member with member | member
        · exact operands step member
        · rw [List.mem_singleton.mp member]; exact operand)
    simpa using longer

end Phrase

theorem Expr.Spells.phrase {depth : Nat} {q : Precedence} {e : Expr} {tokens : List Token}
    (spells : e.Spells depth q tokens) : Phrase depth q tokens := by
  obtain ⟨reads, bound, tight, shallow⟩ := spells
  induction reads generalizing depth q with
  | literal same => exact (Phrase.literal (Token.literal?_eq_some_iff.mpr same)).loosen tight
  | group opens closes _ ih =>
    obtain ⟨depth, rfl⟩ : ∃ d, depth = d + 1 := ⟨depth - 1, by simp only [nesting] at shallow; omega⟩
    have inner := ih bound (q := .equality) (by cases Expr.precedence _ <;> decide) (Nat.le_of_succ_le_succ shallow)
    exact (Phrase.group opens closes inner).loosen tight
  | unary _ ih =>
    obtain ⟨depth, rfl⟩ : ∃ d, depth = d + 1 := ⟨depth - 1, by simp only [nesting] at shallow; omega⟩
    have operand := ih bound.2.2 bound.2.1 (Nat.le_of_succ_le_succ shallow)
    exact (Phrase.prefixed bound.1 operand).loosen tight
  | binary _ _ ihLeft ihRight =>
    obtain ⟨r, found, tightLeft, tightRight, boundLeft, boundRight⟩ := bound
    have next := Precedence.level_tighter (Token.level_lt_of_precedence? found)
    have shallows := Nat.max_le.mp shallow
    have left := ihLeft boundLeft tightLeft shallows.1
    have right := ihRight (q := r.tighter) boundRight (by omega) shallows.2
    rw [precedence_binary found] at tight
    exact (left.snoc found right).loosen tight

/-- The phrases of a rule are the token lists that its trees spell. -/
theorem phrase_iff_spells {depth : Nat} {q : Precedence} {tokens : List Token} :
    Phrase depth q tokens ↔ ∃ e : Expr, e.Spells depth q tokens := by
  constructor
  · intro phrase
    induction phrase with
    | literal denotes => exact ⟨_, .literal (Token.literal?_eq_some_iff.mp denotes)⟩
    | group opens closes _ ih =>
      obtain ⟨e, spells⟩ := ih
      exact ⟨_, .group opens closes spells⟩
    | primary _ ih =>
      obtain ⟨e, spells⟩ := ih
      exact ⟨e, spells.loosen (by decide)⟩
    | prefixed stands _ ih =>
      obtain ⟨e, spells⟩ := ih
      exact ⟨_, .unary stands spells⟩
    | chain loose _ operators _ ihFirst ihOperands =>
      obtain ⟨e, spells⟩ := ihFirst
      have next := Precedence.level_tighter loose
      exact (spells.loosen (by omega)).chain operators ihOperands
  · rintro ⟨e, spells⟩
    exact spells.phrase

end Reckon
