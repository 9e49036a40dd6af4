import Reckon.Proofs.Recognition

namespace Reckon

namespace Parser

/-- What waits for the answer of a call: a prefix operator for its operand, a parenthesis for what stands in it, a chain
for its first operand or for the right operand of an operator. -/
inductive Frame where
  | operand (operator : Token)
  | inside
  | first (q : Precedence)
  | right (q : Precedence) (left : Expr) (operator : Token)

def Frame.isNested : Frame → Bool
  | operand _ | inside => true
  | first _ | right .. => false

inductive Control where
  | carryOut (task : Task)
  | answer (result : Except SyntaxFault Expr)

structure Descent where
  control : Control
  parser : Parser
  waiting : List Frame

namespace Descent

def start (q : Precedence) (p : Parser) : Descent := ⟨.carryOut (.rule q), p, []⟩

def levels (s : Descent) : Nat := (s.waiting.filter Frame.isNested).length

def call (q : Precedence) (p : Parser) (waiting : List Frame) : Descent :=
  if q = .unary then
    if p.peek.isPrefixOperator then
      if maxDepth ≤ p.depth then ⟨.answer (.error .tooDeeplyNested), p.advance, waiting⟩
      else ⟨.carryOut (.rule .unary), p.advance.enter, .operand p.peek :: waiting⟩
    else ⟨.carryOut (.rule .primary), p, waiting⟩
  else if q = .primary then
    if p.peek.symbol = .mark .leftParen then
      if maxDepth ≤ p.depth then ⟨.answer (.error .tooDeeplyNested), p.advance, waiting⟩
      else ⟨.carryOut (.rule .equality), p.advance.enter, .inside :: waiting⟩
    else
      match p.peek.literal? with
      | some v => ⟨.answer (.ok (.literal v)), p.advance, waiting⟩
      | none => ⟨.answer (.error .expectedExpression), p, waiting⟩
  else ⟨.carryOut (.rule q.tighter), p, .first q :: waiting⟩

def goOn (q : Precedence) (left : Expr) (p : Parser) (waiting : List Frame) : Descent :=
  if p.peek.precedence? = some q then ⟨.carryOut (.rule q.tighter), p.advance, .right q left p.peek :: waiting⟩
  else ⟨.answer (.ok left), p, waiting⟩

def resume (result : Except SyntaxFault Expr) (p : Parser) (waiting : List Frame) : Frame → Descent
  | .operand operator => ⟨.answer (result.map (.unary operator)), p.leave, waiting⟩
  | .inside =>
    match result with
    | .error fault => ⟨.answer (.error fault), p.leave, waiting⟩
    | .ok e =>
      if p.leave.peek.symbol = .mark .rightParen then ⟨.answer (.ok (.group e)), p.leave.advance, waiting⟩
      else ⟨.answer (.error .missingRightParen), p.leave, waiting⟩
  | .first q =>
    match result with
    | .error fault => ⟨.answer (.error fault), p, waiting⟩
    | .ok left => ⟨.carryOut (.chain q left), p, waiting⟩
  | .right q left operator =>
    match result with
    | .error fault => ⟨.answer (.error fault), p, waiting⟩
    | .ok operand => ⟨.carryOut (.chain q (.binary left operator operand)), p, waiting⟩

def step : Descent → Descent
  | ⟨.carryOut (.rule q), p, waiting⟩ => call q p waiting
  | ⟨.carryOut (.chain q left), p, waiting⟩ => goOn q left p waiting
  | ⟨.answer result, p, frame :: waiting⟩ => resume result p waiting frame
  | ⟨.answer result, p, []⟩ => ⟨.answer result, p, []⟩

def after : Nat → Descent → Descent
  | 0, s => s
  | count + 1, s => s.step.after count

theorem after_add (first second : Nat) (s : Descent) : after (first + second) s = after second (after first s) := by
  induction first generalizing s with
  | zero => rw [Nat.zero_add, after]
  | succ first ih => rw [Nat.add_right_comm, after, ih, after]

theorem after_answer (count : Nat) (result : Except SyntaxFault Expr) (p : Parser) :
    after count ⟨.answer result, p, []⟩ = ⟨.answer result, p, []⟩ := by
  induction count with
  | zero => rfl
  | succ count ih => rw [after, step, ih]

def Comes (s t : Descent) : Prop := ∃ count, after count s = t

theorem Comes.trans {s t u : Descent} (first : Comes s t) (second : Comes t u) : Comes s u := by
  obtain ⟨m, rfl⟩ := first
  obtain ⟨n, rfl⟩ := second
  exact ⟨m + n, after_add m n s⟩

theorem comes_of_step {s t : Descent} (stepped : s.step = t) : Comes s t := ⟨1, stepped⟩

section

variable {p : Parser} {q : Precedence} {e left : Expr} {fault : SyntaxFault} {waiting : List Frame}

theorem step_prefixed (operator : p.peek.isPrefixOperator = true) (room : p.depth < maxDepth) :
    step ⟨.carryOut (.rule .unary), p, waiting⟩ =
      ⟨.carryOut (.rule .unary), p.advance.enter, .operand p.peek :: waiting⟩ := by
  simp [step, call, operator, Nat.not_le.mpr room]

theorem step_group (opens : p.peek.symbol = .mark .leftParen) (room : p.depth < maxDepth) :
    step ⟨.carryOut (.rule .primary), p, waiting⟩ =
      ⟨.carryOut (.rule .equality), p.advance.enter, .inside :: waiting⟩ := by
  simp [step, call, opens, Nat.not_le.mpr room]

theorem step_compound (loose : q.level < Precedence.unary.level) :
    step ⟨.carryOut (.rule q), p, waiting⟩ = ⟨.carryOut (.rule q.tighter), p, .first q :: waiting⟩ := by
  obtain ⟨unprefixed, compound⟩ := Precedence.compound_of_level_lt loose
  simp [step, call, unprefixed, compound]

theorem step_operator (found : p.peek.precedence? = some q) :
    step ⟨.carryOut (.chain q left), p, waiting⟩ =
      ⟨.carryOut (.rule q.tighter), p.advance, .right q left p.peek :: waiting⟩ := by
  simp [step, goOn, found]

end

end Descent

open Descent in
theorem Ends.comes {task : Task} {p next : Parser} {result : Except SyntaxFault Expr}
    (ends : Ends task p result next) (waiting : List Frame) :
    Comes ⟨.carryOut task, p, waiting⟩ ⟨.answer result, next, waiting⟩ := by
  induction ends generalizing waiting with
  | prefixedDeep operator full =>
    apply comes_of_step
    simp [step, call, operator, full]
  | prefixedFault operator room _ ih | prefixed operator room _ ih =>
    exact (comes_of_step (step_prefixed operator room)).trans ((ih _).trans (comes_of_step rfl))
  | unprefixed operand _ ih =>
    refine Comes.trans (comes_of_step ?_) (ih waiting)
    simp [step, call, operand]
  | groupDeep opens full =>
    apply comes_of_step
    simp [step, call, opens, full]
  | groupFault opens room _ ih =>
    exact (comes_of_step (step_group opens room)).trans ((ih _).trans (comes_of_step rfl))
  | group opens room _ closes ih =>
    refine (comes_of_step (step_group opens room)).trans ((ih _).trans (comes_of_step ?_))
    simp [step, resume, closes]
  | unclosed opens room _ unclosed ih =>
    refine (comes_of_step (step_group opens room)).trans ((ih _).trans (comes_of_step ?_))
    simp [step, resume, unclosed]
  | literal denotes =>
    apply comes_of_step
    simp [step, call, Token.ne_leftParen_of_literal? denotes, denotes]
  | nothing unopened denotes =>
    apply comes_of_step
    simp [step, call, unopened, denotes]
  | firstFault loose _ ih =>
    exact (comes_of_step (step_compound loose)).trans ((ih _).trans (comes_of_step rfl))
  | first loose _ _ ihFirst ihMore =>
    refine (comes_of_step (step_compound loose)).trans ((ihFirst _).trans ?_)
    exact Comes.trans (comes_of_step rfl) (ihMore waiting)
  | operandFault found _ ih =>
    exact (comes_of_step (step_operator found)).trans ((ih _).trans (comes_of_step rfl))
  | operand found _ _ ihOperand ihMore =>
    refine (comes_of_step (step_operator found)).trans ((ihOperand _).trans ?_)
    exact Comes.trans (comes_of_step rfl) (ihMore waiting)
  | finished unfound =>
    apply comes_of_step
    simp [step, goOn, unfound]

structure Passes (p next : Parser) (read : List Token) : Prop where
  ahead : p.rest = read ++ next.rest
  going : ∀ t ∈ read, t.isFinish = false
  lastLine : next.lastLine = p.lastLine

theorem Passes.refl (p : Parser) : p.Passes p [] := ⟨rfl, by simp, rfl⟩

theorem exists_passes_advance (p : Parser) : ∃ read, p.Passes p.advance read := by
  cases finish : p.peek.isFinish with
  | true => exact ⟨[], by rw [advance, if_pos finish]; exact .refl p⟩
  | false =>
    have before := unread_advance finish
    have line : (p.advance.unread [p.peek]).lastLine = p.lastLine := by rw [before]
    exact ⟨[p.peek], (congrArg Parser.rest before).symm, by simpa using finish, line⟩

namespace Descent

/-- All that a step does to the state of the parser and to the number of levels. -/
inductive Effect (p : Parser) : Nat → Parser → Nat → Prop
  | stays {levels : Nat} : Effect p levels p levels
  | advances {levels : Nat} : Effect p levels p.advance levels
  | enters {levels : Nat} (room : p.depth < maxDepth) : Effect p levels p.advance.enter (levels + 1)
  | leaves {levels : Nat} : Effect p (levels + 1) p.leave levels
  | closes {levels : Nat} : Effect p (levels + 1) p.leave.advance levels

theorem effect_call (q : Precedence) (p : Parser) (waiting : List Frame) :
    Effect p (waiting.filter Frame.isNested).length (call q p waiting).parser (call q p waiting).levels := by
  unfold call
  split
  · split
    · split
      · exact .advances
      · rename_i room
        exact .enters (Nat.not_le.mp room)
    · exact .stays
  · split
    · split
      · split
        · exact .advances
        · rename_i room
          exact .enters (Nat.not_le.mp room)
      · split
        · exact .advances
        · exact .stays
    · exact .stays

theorem effect_goOn (q : Precedence) (left : Expr) (p : Parser) (waiting : List Frame) :
    Effect p (waiting.filter Frame.isNested).length (goOn q left p waiting).parser (goOn q left p waiting).levels := by
  unfold goOn
  split
  · exact .advances
  · exact .stays

theorem effect_resume (result : Except SyntaxFault Expr) (p : Parser) (waiting : List Frame) (frame : Frame) :
    Effect p ((frame :: waiting).filter Frame.isNested).length (resume result p waiting frame).parser
      (resume result p waiting frame).levels := by
  cases frame with
  | operand operator => exact .leaves
  | inside =>
    cases result with
    | error fault => exact .leaves
    | ok e =>
      simp only [resume]
      split
      · exact .closes
      · exact .leaves
  | first q | right q left operator => cases result <;> exact .stays

theorem effect_step (s : Descent) : Effect s.parser s.levels s.step.parser s.step.levels := by
  rcases s with ⟨task | result, p, waiting⟩
  · cases task with
    | rule q => exact effect_call q p waiting
    | chain q left => exact effect_goOn q left p waiting
  · cases waiting with
    | nil => exact .stays
    | cons frame waiting => exact effect_resume result p waiting frame

namespace Effect

variable {p next : Parser} {levels more : Nat}

theorem depth {base : Nat} (effect : Effect p levels next more) (same : p.depth = base + levels) :
    next.depth = base + more := by
  cases effect with
  | stays => exact same
  | advances => rw [depth_advance, same]
  | enters => rw [enter, depth_advance, same, Nat.add_assoc]
  | leaves => rw [leave, same, ← Nat.add_assoc, Nat.add_sub_cancel]
  | closes => rw [depth_advance, leave, same, ← Nat.add_assoc, Nat.add_sub_cancel]

theorem depth_le (effect : Effect p levels next more) (within : p.depth ≤ maxDepth) : next.depth ≤ maxDepth := by
  cases effect with
  | stays => exact within
  | advances => rwa [depth_advance]
  | enters room => rw [enter, depth_advance]; exact room
  | leaves => exact Nat.le_trans (Nat.sub_le _ _) within
  | closes => rw [depth_advance]; exact Nat.le_trans (Nat.sub_le _ _) within

theorem exists_passes (effect : Effect p levels next more) : ∃ read, p.Passes next read := by
  cases effect with
  | stays | leaves => exact ⟨[], rfl, by simp, rfl⟩
  | advances => exact exists_passes_advance p
  | enters =>
    obtain ⟨read, passes⟩ := exists_passes_advance p
    exact ⟨read, passes.ahead, passes.going, passes.lastLine⟩
  | closes =>
    obtain ⟨read, passes⟩ := exists_passes_advance p.leave
    exact ⟨read, passes.ahead, passes.going, passes.lastLine⟩

end Effect

end Descent

def stateAt (tokens : List Token) (current depth : Nat) : Parser :=
  ⟨tokens.drop current, (ofTokens tokens).lastLine, depth⟩

def position (tokens : List Token) (p : Parser) : Nat := tokens.length - p.rest.length

/-- Where a parse may be that began at a position: not before it, not behind the tokens, and not behind an end that comes
there or later. -/
structure Ahead (tokens : List Token) (current now : Nat) : Prop where
  forward : current ≤ now
  inside : now ≤ tokens.length
  stops : ∀ i t, current ≤ i → tokens[i]? = some t → t.isFinish = true → now ≤ i

theorem Ahead.trans {tokens : List Token} {current middle now : Nat} (first : Ahead tokens current middle)
    (second : Ahead tokens middle now) : Ahead tokens current now where
  forward := Nat.le_trans first.forward second.forward
  inside := second.inside
  stops i t start found finish := second.stops i t (first.stops i t start found finish) found finish

section

variable {tokens read : List Token} {current depth : Nat} {next : Parser}

theorem Passes.position_eq (passes : (stateAt tokens current depth).Passes next read)
    (inside : current ≤ tokens.length) : position tokens next = current + read.length := by
  have length := congrArg List.length passes.ahead
  simp only [stateAt, List.length_drop, List.length_append] at length
  rw [position]
  omega

theorem Passes.eq_stateAt (passes : (stateAt tokens current depth).Passes next read)
    (inside : current ≤ tokens.length) : next = stateAt tokens (position tokens next) next.depth := by
  have rest : tokens.drop (current + read.length) = next.rest := by
    rw [← List.drop_drop, show tokens.drop current = read ++ next.rest from passes.ahead, List.drop_left]
  have line : (ofTokens tokens).lastLine = next.lastLine := passes.lastLine.symm
  rw [passes.position_eq inside, stateAt, rest, line]

theorem Passes.isAhead (passes : (stateAt tokens current depth).Passes next read)
    (inside : current ≤ tokens.length) : Ahead tokens current (position tokens next) where
  forward := by rw [passes.position_eq inside]; exact Nat.le_add_right _ _
  inside := Nat.sub_le _ _
  stops i t start found finish := by
    rw [passes.position_eq inside]
    apply Nat.le_of_not_lt
    intro before
    -- A token in front of the state was passed, and so is no end.
    have there : read[i - current]? = some t := by
      rw [← List.getElem?_append_left (by omega), ← passes.ahead, stateAt, List.getElem?_drop,
        Nat.add_sub_cancel' start, found]
    rw [passes.going t (List.mem_of_getElem? there)] at finish
    cases finish

end

theorem Ends.position_lt {tokens : List Token} {current depth : Nat} {q : Precedence} {e : Expr} {next : Parser}
    (ends : Ends (.rule q) (stateAt tokens current depth) (.ok e) next) (inside : current ≤ tokens.length)
    (within : depth ≤ maxDepth) : current < position tokens next := by
  obtain ⟨read, before, spells, -⟩ := ends.completes within e rfl
  have passes : (stateAt tokens current depth).Passes next read := by
    rw [before]
    exact ⟨rfl, spells.reads.not_finish spells.bound, rfl⟩
  have some : 0 < read.length := List.length_pos_iff.mpr spells.reads.ne_nil
  rw [passes.position_eq inside]
  omega

/-- A moment of a run that began at a position and depth: the state is one over the same tokens, and its depth is the
first one and the levels under way, which are no more than may be open. -/
structure Moment (tokens : List Token) (current depth : Nat) (s : Descent) : Prop where
  state : s.parser = stateAt tokens (position tokens s.parser) (depth + s.levels)
  place : Ahead tokens current (position tokens s.parser)
  shallow : depth + s.levels ≤ maxDepth

theorem moment_start {tokens : List Token} {current depth : Nat} (q : Precedence) (inside : current ≤ tokens.length)
    (within : depth ≤ maxDepth) : Moment tokens current depth (.start q (stateAt tokens current depth)) where
  state := (Passes.refl _).eq_stateAt inside
  place := (Passes.refl _).isAhead inside
  shallow := within

namespace Moment

variable {tokens : List Token} {current depth : Nat} {s : Descent}

theorem passes_step (moment : Moment tokens current depth s) :
    ∃ read, (stateAt tokens (position tokens s.parser) (depth + s.levels)).Passes s.step.parser read := by
  rw [← moment.state]
  exact s.effect_step.exists_passes

theorem position_step_le (moment : Moment tokens current depth s) :
    position tokens s.parser ≤ position tokens s.step.parser := by
  obtain ⟨read, passes⟩ := moment.passes_step
  exact (passes.isAhead moment.place.inside).forward

theorem step (moment : Moment tokens current depth s) : Moment tokens current depth s.step := by
  have same : s.parser.depth = depth + s.levels := congrArg Parser.depth moment.state
  have deep := s.effect_step.depth same
  have within : s.parser.depth ≤ maxDepth := by rw [same]; exact moment.shallow
  obtain ⟨read, passes⟩ := moment.passes_step
  refine ⟨?_, moment.place.trans (passes.isAhead moment.place.inside), ?_⟩
  · rw [← deep]
    exact passes.eq_stateAt moment.place.inside
  · rw [← deep]
    exact s.effect_step.depth_le within

theorem after (moment : Moment tokens current depth s) (count : Nat) : Moment tokens current depth (s.after count) := by
  induction count generalizing s with
  | zero => exact moment
  | succ count ih => exact ih moment.step

end Moment

structure Runs (tokens : List Token) (current : Nat) (q : Precedence) (p : Parser) : Prop where
  returns : ∃ now, (rule q p).next = stateAt tokens now p.depth ∧ Ahead tokens current now ∧
    ∀ e, (rule q p).result = .ok e → current < now
  ends : ∃ count, ∀ more,
    (Descent.start q p).after (count + more) = ⟨.answer (rule q p).result, (rule q p).next, []⟩
  calls : ∀ count r called waiting, (Descent.start q p).after count = ⟨.carryOut (.rule r), called, waiting⟩ →
    ∃ more, (Descent.start q p).after (count + more) = ⟨.answer (rule r called).result, (rule r called).next, waiting⟩
  moments : ∀ count, Moment tokens current p.depth ((Descent.start q p).after count)
  onward : ∀ count, position tokens ((Descent.start q p).after count).parser ≤
    position tokens ((Descent.start q p).after (count + 1)).parser

/-- Every rule ends, on the depth on which it was called, with its position moved on if it succeeded. On the way the
position only grows, up to the first end at the most, and no more levels are open than the depth leaves. -/
theorem rules_keep_depth (tokens : List Token) (current depth : Nat) (q : Precedence)
    (inside : current ≤ tokens.length) (within : depth ≤ maxDepth) :
    Runs tokens current q (stateAt tokens current depth) := by
  have ends := ends_rule q (stateAt tokens current depth)
  have moments := (moment_start q inside within).after
  obtain ⟨count, answered⟩ := ends.comes []
  have last := moments count
  refine ⟨?_, ⟨count, ?_⟩, ?_, moments, ?_⟩
  · rw [Descent.start, answered] at last
    refine ⟨_, last.state, last.place, ?_⟩
    intro e parsed
    rw [parsed] at ends
    exact ends.position_lt inside within
  · intro more
    rw [Descent.after_add, Descent.start, answered, Descent.after_answer]
  · intro before r called waiting calling
    obtain ⟨more, returned⟩ := (ends_rule r called).comes waiting
    exact ⟨more, by rw [Descent.after_add, calling, returned]⟩
  · intro count
    rw [Descent.after_add]
    exact (moments count).position_step_le

def bracketed : List Token :=
  [⟨.mark .minus, "-", 1⟩, ⟨.mark .leftParen, "(", 1⟩, ⟨.keyword .nil, "nil", 1⟩, ⟨.mark .rightParen, ")", 1⟩,
    .finish 1, ⟨.keyword .nil, "nil", 2⟩]

theorem bracketed_keeps_depth : 1 ≤ bracketed.length ∧ 254 ≤ maxDepth ∧
    Runs bracketed 1 .unary (stateAt bracketed 1 254) :=
  ⟨by decide, by decide, rules_keep_depth bracketed 1 254 .unary (by decide) (by decide)⟩

end Parser

end Reckon
