import Reckon.Expr.Parser
import Reckon.Proofs.Grammar

namespace Reckon

inductive Opening where
  | parenthesis
  | operator
deriving DecidableEq

/-- The place behind some tokens: whether an operand comes next, and what is open there, the innermost first. -/
structure Place where
  awaits : Bool
  opened : List Opening
deriving DecidableEq

def Token.opensParenthesis (t : Token) : Bool := t.symbol == .mark .leftParen

def Token.closesParenthesis (t : Token) : Bool := t.symbol == .mark .rightParen

def Token.awaitsOperand (t : Token) : Bool :=
  t.opensParenthesis || t.isPrefixOperator || t.precedence?.isSome

namespace Place

def start : Place := ⟨true, []⟩

/-- An operand ends all prefix operators in front of it. -/
def behind (opened : List Opening) : Place := ⟨false, opened.dropWhile (· == .operator)⟩

def deeper? (opening : Opening) (opened : List Opening) : Option Place :=
  if opened.length < Parser.maxDepth then some ⟨true, opening :: opened⟩ else none

def after? : Place → Token → Option Place
  | ⟨true, opened⟩, t =>
    if t.opensParenthesis then deeper? .parenthesis opened
    else if t.isPrefixOperator then deeper? .operator opened
    else if t.literal?.isSome then some (behind opened)
    else none
  | ⟨false, opened⟩, t =>
    if t.precedence?.isSome then some ⟨true, opened⟩
    else if t.closesParenthesis then
      match opened with
      | .parenthesis :: outer => some (behind outer)
      | _ => none
    else none

def readAll (place : Place) (tokens : List Token) : Option Place := tokens.foldlM after? place

@[simp] theorem readAll_nil (place : Place) : place.readAll [] = some place := rfl

@[simp] theorem readAll_cons (place : Place) (t : Token) (tokens : List Token) :
    place.readAll (t :: tokens) = (place.after? t).bind (·.readAll tokens) := rfl

theorem readAll_append (place : Place) (front back : List Token) :
    place.readAll (front ++ back) = (place.readAll front).bind (·.readAll back) := List.foldlM_append

@[simp] theorem behind_operator (opened : List Opening) : behind (.operator :: opened) = behind opened := rfl

@[simp] theorem behind_parenthesis (opened : List Opening) :
    behind (.parenthesis :: opened) = ⟨false, .parenthesis :: opened⟩ := rfl

theorem behind_opened (opened : List Opening) : behind (behind opened).opened = behind opened := by
  induction opened with
  | nil => rfl
  | cons opening opened ih =>
    cases opening with
    | parenthesis => rfl
    | operator => exact ih

theorem length_behind_le (opened : List Opening) : (behind opened).opened.length ≤ opened.length :=
  (List.dropWhile_suffix _).length_le

theorem after?_literal {t : Token} {v : Value} (denotes : t.literal? = some v) (opened : List Opening) :
    after? ⟨true, opened⟩ t = some (behind opened) := by
  have symbol := Token.literal?_eq_some_iff.mp denotes
  have unopened : t.opensParenthesis = false := by
    rw [Token.opensParenthesis, symbol]
    rcases v with _ | _ | b | _ <;> first | rfl | (cases b <;> rfl)
  have unprefixed : t.isPrefixOperator = false := by
    rw [Token.isPrefixOperator, symbol]
    rcases v with _ | _ | b | _ <;> first | rfl | (cases b <;> rfl)
  simp [after?, unopened, unprefixed, denotes]

theorem after?_leftParen {t : Token} (opens : t.symbol = .mark .leftParen) (opened : List Opening) :
    after? ⟨true, opened⟩ t = deeper? .parenthesis opened := by
  simp [after?, Token.opensParenthesis, opens]

theorem after?_prefix {t : Token} (stands : t.isPrefixOperator = true) (opened : List Opening) :
    after? ⟨true, opened⟩ t = deeper? .operator opened := by
  have unopened : t.opensParenthesis = false := by
    rcases Token.isPrefixOperator_iff.mp stands with symbol | symbol <;> simp [Token.opensParenthesis, symbol]
  simp [after?, unopened, stands]

theorem after?_operator {t : Token} {q : Precedence} (found : t.precedence? = some q) (opened : List Opening) :
    after? ⟨false, opened⟩ t = some ⟨true, opened⟩ := by
  simp [after?, found]

theorem after?_rightParen {t : Token} (closes : t.symbol = .mark .rightParen) (outer : List Opening) :
    after? ⟨false, .parenthesis :: outer⟩ t = some (behind outer) := by
  simp [after?, Token.closesParenthesis, Token.precedence?, Mark.precedence?, closes]

theorem deeper?_of_lt {opening : Opening} {opened : List Opening} (room : opened.length < Parser.maxDepth) :
    deeper? opening opened = some ⟨true, opening :: opened⟩ := if_pos room

theorem deeper?_eq_some {opening : Opening} {opened : List Opening} {next : Place}
    (moved : deeper? opening opened = some next) :
    opened.length < Parser.maxDepth ∧ ⟨true, opening :: opened⟩ = next := by
  unfold deeper? at moved
  split at moved
  · rename_i room
    exact ⟨room, Option.some.inj moved⟩
  · cases moved

inductive Moves : Place → Token → Place → Prop
  | parenthesis {t : Token} {opened : List Opening} (opens : t.symbol = .mark .leftParen)
      (room : opened.length < Parser.maxDepth) : Moves ⟨true, opened⟩ t ⟨true, .parenthesis :: opened⟩
  | prefixed {t : Token} {opened : List Opening} (stands : t.symbol = .mark .bang ∨ t.symbol = .mark .minus)
      (room : opened.length < Parser.maxDepth) : Moves ⟨true, opened⟩ t ⟨true, .operator :: opened⟩
  | literal {t : Token} {v : Value} {opened : List Opening} (same : t.symbol = v.symbol) :
      Moves ⟨true, opened⟩ t (behind opened)
  | operator {t : Token} {q : Precedence} {opened : List Opening} (found : t.precedence? = some q) :
      Moves ⟨false, opened⟩ t ⟨true, opened⟩
  | closing {t : Token} {outer : List Opening} (closes : t.symbol = .mark .rightParen) :
      Moves ⟨false, .parenthesis :: outer⟩ t (behind outer)

theorem moves_of_after? {place next : Place} {t : Token} (moved : place.after? t = some next) :
    Moves place t next := by
  unfold after? at moved
  split at moved
  · split at moved
    · rename_i opens
      obtain ⟨room, rfl⟩ := deeper?_eq_some moved
      exact .parenthesis (beq_iff_eq.mp opens) room
    · split at moved
      · rename_i stands
        obtain ⟨room, rfl⟩ := deeper?_eq_some moved
        exact .prefixed (Token.isPrefixOperator_iff.mp stands) room
      · split at moved
        · rename_i denotes
          obtain ⟨v, denotes⟩ := Option.isSome_iff_exists.mp denotes
          cases moved
          exact .literal (Token.literal?_eq_some_iff.mp denotes)
        · cases moved
  · split at moved
    · rename_i found
      obtain ⟨q, found⟩ := Option.isSome_iff_exists.mp found
      cases moved
      exact .operator found
    · split at moved
      · rename_i closes
        split at moved
        · cases moved
          exact .closing (beq_iff_eq.mp closes)
        · cases moved
      · cases moved

theorem Moves.not_finish {place next : Place} {t : Token} (moves : Moves place t next) : t.isFinish = false := by
  cases moves with
  | parenthesis opens => simp [Token.isFinish, opens]
  | prefixed stands => rcases stands with symbol | symbol <;> simp [Token.isFinish, symbol]
  | literal same => exact Token.not_finish_of_literal? (Token.literal?_eq_some_iff.mpr same)
  | operator found => exact Token.not_finish_of_precedence? found
  | closing closes => simp [Token.isFinish, closes]

/-- Whether an operand is to come is told by the last token alone. -/
theorem Moves.awaits {place next : Place} {t : Token} (moves : Moves place t next) :
    next.awaits = t.awaitsOperand := by
  cases moves with
  | parenthesis opens => simp [Token.awaitsOperand, Token.opensParenthesis, opens]
  | prefixed stands =>
    rcases stands with symbol | symbol <;> simp [Token.awaitsOperand, Token.isPrefixOperator, symbol]
  | @literal t v _ same =>
    simp only [Token.awaitsOperand, Token.opensParenthesis, Token.isPrefixOperator, Token.precedence?, same]
    cases v with
    | boolean b => cases b <;> rfl
    | _ => rfl
  | operator found => simp [Token.awaitsOperand, found]
  | closing closes =>
    simp only [Token.awaitsOperand, Token.opensParenthesis, Token.isPrefixOperator, Token.precedence?, closes]
    rfl

theorem count_behind (opened : List Opening) :
    (behind opened).opened.count .parenthesis = opened.count .parenthesis := by
  induction opened with
  | nil => rfl
  | cons opening opened ih =>
    cases opening with
    | parenthesis => rfl
    | operator => rw [behind_operator, ih, List.count_cons_of_ne (by decide)]

theorem Moves.count {place next : Place} {t : Token} (moves : Moves place t next) :
    place.opened.count .parenthesis + [t].countP Token.opensParenthesis =
      next.opened.count .parenthesis + [t].countP Token.closesParenthesis := by
  cases moves with
  | parenthesis opens => simp [Token.opensParenthesis, Token.closesParenthesis, opens]
  | prefixed stands =>
    rcases stands with symbol | symbol <;> simp [Token.opensParenthesis, Token.closesParenthesis, symbol]
  | @literal t v _ same =>
    rw [count_behind]
    cases v with
    | boolean b => cases b <;> simp [Token.opensParenthesis, Token.closesParenthesis, same, Value.symbol]
    | _ => simp [Token.opensParenthesis, Token.closesParenthesis, same, Value.symbol]
  | operator found =>
    have closed : t.opensParenthesis = false ∧ t.closesParenthesis = false := by
      constructor <;> rw [Bool.eq_false_iff] <;> intro symbol <;>
        simp only [Token.opensParenthesis, Token.closesParenthesis, beq_iff_eq] at symbol <;>
        simp [Token.precedence?, symbol, Mark.precedence?] at found
    simp [closed]
  | closing closes =>
    simp [Token.opensParenthesis, Token.closesParenthesis, closes, count_behind]

theorem not_finish_of_readAll {place next : Place} {tokens : List Token}
    (reads : place.readAll tokens = some next) : ∀ t ∈ tokens, t.isFinish = false := by
  induction tokens generalizing place with
  | nil => simp
  | cons t tokens ih =>
    rw [readAll_cons, Option.bind_eq_some_iff] at reads
    obtain ⟨middle, moved, rest⟩ := reads
    exact List.forall_mem_cons.mpr ⟨(moves_of_after? moved).not_finish, ih rest⟩

theorem awaits_of_readAll {place : Place} {tokens : List Token} (reads : start.readAll tokens = some place) :
    place.awaits = tokens.getLast?.all Token.awaitsOperand := by
  rcases List.eq_nil_or_concat tokens with rfl | ⟨front, t, rfl⟩
  · cases reads
    rfl
  · rw [List.concat_eq_append, readAll_append, Option.bind_eq_some_iff] at reads
    obtain ⟨middle, -, moved⟩ := reads
    rw [readAll_cons, Option.bind_eq_some_iff] at moved
    obtain ⟨next, moved, last⟩ := moved
    cases last
    rw [List.concat_eq_append, List.getLast?_append, (moves_of_after? moved).awaits]
    rfl

theorem count_of_readAll {place next : Place} {tokens : List Token} (reads : place.readAll tokens = some next) :
    place.opened.count .parenthesis + tokens.countP Token.opensParenthesis =
      next.opened.count .parenthesis + tokens.countP Token.closesParenthesis := by
  induction tokens generalizing place with
  | nil =>
    cases reads
    rfl
  | cons t tokens ih =>
    rw [readAll_cons, Option.bind_eq_some_iff] at reads
    obtain ⟨middle, moved, rest⟩ := reads
    have first := (moves_of_after? moved).count
    have later := ih rest
    rw [← List.singleton_append, List.countP_append, List.countP_append]
    omega

end Place

theorem Expr.Reads.place {e : Expr} {tokens : List Token} (reads : e.Reads tokens) (bound : e.Bound)
    (opened : List Opening) (within : opened.length + e.nesting ≤ Parser.maxDepth) :
    Place.readAll ⟨true, opened⟩ tokens = some (.behind opened) := by
  induction reads generalizing opened with
  | literal same => simp [Place.after?_literal (Token.literal?_eq_some_iff.mpr same)]
  | group opens closes _ ih =>
    simp only [nesting] at within
    have inner := ih bound (.parenthesis :: opened) (by simp only [List.length_cons]; omega)
    rw [List.cons_append, Place.readAll_cons, Place.after?_leftParen opens, Place.deeper?_of_lt (by omega),
      Option.bind_some, Place.readAll_append, inner, Option.bind_some, Place.behind_parenthesis, Place.readAll_cons,
      Place.after?_rightParen closes]
    rfl
  | unary _ ih =>
    simp only [nesting] at within
    have operand := ih bound.2.2 (.operator :: opened) (by simp only [List.length_cons]; omega)
    rw [Place.readAll_cons, Place.after?_prefix bound.1, Place.deeper?_of_lt (by omega), Option.bind_some, operand,
      Place.behind_operator]
  | binary _ _ ihLeft ihRight =>
    obtain ⟨q, found, -, -, boundLeft, boundRight⟩ := bound
    simp only [nesting] at within
    have fewer := Place.length_behind_le opened
    have left := ihLeft boundLeft opened (by omega)
    have right := ihRight boundRight (Place.behind opened).opened (by omega)
    have operator : Place.after? (.behind opened) _ = some ⟨true, (Place.behind opened).opened⟩ :=
      Place.after?_operator found _
    rw [Place.readAll_append, left, Option.bind_some, Place.readAll_cons, operator, Option.bind_some, right,
      Place.behind_opened]

namespace Place

theorem exists_closing (opened : List Opening) : ∃ tokens, (behind opened).readAll tokens = some ⟨false, []⟩ := by
  induction opened with
  | nil => exact ⟨[], rfl⟩
  | cons opening outer ih =>
    obtain ⟨tokens, reads⟩ := ih
    cases opening with
    | operator => exact ⟨tokens, reads⟩
    | parenthesis =>
      refine ⟨⟨.mark .rightParen, ")", 1⟩ :: tokens, ?_⟩
      rw [behind_parenthesis, readAll_cons, after?_rightParen rfl, Option.bind_some, reads]

theorem exists_completion (opened : List Opening) :
    ∃ tokens, readAll ⟨true, opened⟩ tokens = some ⟨false, []⟩ := by
  obtain ⟨tokens, reads⟩ := exists_closing opened
  refine ⟨⟨.keyword .nil, "nil", 1⟩ :: tokens, ?_⟩
  rw [readAll_cons, after?_literal (v := .nil) rfl, Option.bind_some, reads]

end Place

end Reckon
