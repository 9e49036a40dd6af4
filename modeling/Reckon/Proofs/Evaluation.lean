import Reckon.Expr.Evaluate

namespace Reckon

namespace Machine

structure State where
  steps : List Step
  values : List Value

def State.start (e : Expr) : State := ⟨[.evaluate e], []⟩

/-- What a round comes to: a state to go on from, the top value with those below it when no step is left, an
error, or a step that finds too few values. -/
inductive Outcome where
  | goesOn (s : State)
  | done (v : Value) (below : List Value)
  | failed (err : RuntimeError)
  | underflow

def advance : State → Outcome
  | ⟨[], v :: below⟩ => .done v below
  | ⟨.evaluate (.literal v) :: steps, values⟩ => .goesOn ⟨steps, v :: values⟩
  | ⟨.evaluate (.group inner) :: steps, values⟩ => .goesOn ⟨.evaluate inner :: steps, values⟩
  | ⟨.evaluate (.unary operator operand) :: steps, values⟩ =>
    .goesOn ⟨.evaluate operand :: .unary operator :: steps, values⟩
  | ⟨.evaluate (.binary left operator right) :: steps, values⟩ =>
    .goesOn ⟨.evaluate left :: .evaluate right :: .binary operator :: steps, values⟩
  | ⟨.unary operator :: steps, v :: values⟩ =>
    match operator.applyUnary v with
    | .ok w => .goesOn ⟨steps, w :: values⟩
    | .error err => .failed err
  | ⟨.binary operator :: steps, w :: v :: values⟩ =>
    match operator.applyBinary v w with
    | .ok x => .goesOn ⟨steps, x :: values⟩
    | .error err => .failed err
  | _ => .underflow

def after : Nat → State → Outcome
  | 0, s => .goesOn s
  | count + 1, s =>
    match advance s with
    | .goesOn next => after count next
    | ended => ended

def Outcome.answer? : Outcome → Option (Except RuntimeError Value)
  | goesOn s => run s.steps s.values
  | done v [] => some (.ok v)
  | done _ (_ :: _) => none
  | failed err => some (.error err)
  | underflow => none

theorem run_eq_advance (s : State) : run s.steps s.values = (advance s).answer? := by
  obtain ⟨steps, values⟩ := s
  cases steps with
  | nil =>
    rcases values with _ | ⟨v, _ | ⟨w, below⟩⟩ <;> simp [run, advance, Outcome.answer?]
  | cons step steps =>
    cases step with
    | evaluate e => cases e <;> simp [run, advance, Outcome.answer?]
    | unary operator =>
      rcases values with _ | ⟨v, values⟩
      · simp [run, advance, Outcome.answer?]
      · simp only [run, advance]
        cases operator.applyUnary v <;> rfl
    | binary operator =>
      rcases values with _ | ⟨w, _ | ⟨v, values⟩⟩
      · simp [run, advance, Outcome.answer?]
      · simp [run, advance, Outcome.answer?]
      · simp only [run, advance]
        cases operator.applyBinary v w <;> rfl

theorem run_eq_after (count : Nat) (s : State) : run s.steps s.values = (after count s).answer? := by
  induction count generalizing s with
  | zero => rfl
  | succ count ih =>
    rw [run_eq_advance, after]
    cases moved : advance s with
    | goesOn next => exact ih next
    | _ => rfl

def Step.takes : Step → Nat
  | evaluate _ => 0
  | unary _ => 1
  | binary _ => 2

/-- Whether as many values are enough for all steps and are in the end a single one. -/
def Balanced : List Step → Nat → Prop
  | [], count => count = 1
  | step :: steps, count => step.takes ≤ count ∧ Balanced steps (count - step.takes + 1)

def State.Balanced (s : State) : Prop := Machine.Balanced s.steps s.values.length

inductive Outcome.Sound : Outcome → Prop
  | goesOn {s : State} (balanced : s.Balanced) : Sound (goesOn s)
  | done {v : Value} : Sound (done v [])
  | failed {err : RuntimeError} : Sound (failed err)

theorem sound_advance {s : State} (balanced : s.Balanced) : (advance s).Sound := by
  obtain ⟨steps, values⟩ := s
  cases steps with
  | nil =>
    obtain ⟨v, rfl⟩ := List.length_eq_one_iff.mp balanced
    exact .done
  | cons step steps =>
    obtain ⟨enough, more⟩ := balanced
    cases step with
    | evaluate e =>
      cases e with
      | literal v => exact .goesOn more
      | group inner => exact .goesOn ⟨enough, more⟩
      | unary operator operand => exact .goesOn ⟨Nat.zero_le _, Nat.succ_pos _, more⟩
      | binary left operator right =>
        exact .goesOn ⟨Nat.zero_le _, Nat.zero_le _, Nat.le_add_left _ _, more⟩
    | unary operator =>
      rcases values with _ | ⟨v, values⟩
      · cases enough
      · simp only [advance]
        cases operator.applyUnary v with
        | ok w => exact .goesOn more
        | error err => exact .failed
    | binary operator =>
      rcases values with _ | ⟨w, _ | ⟨v, values⟩⟩
      · cases enough
      · exact absurd enough (Nat.not_le.mpr Nat.one_lt_two)
      · simp only [advance]
        cases operator.applyBinary v w with
        | ok x => exact .goesOn more
        | error err => exact .failed

theorem sound_after (count : Nat) {s : State} (balanced : s.Balanced) : (after count s).Sound := by
  induction count generalizing s with
  | zero => exact .goesOn balanced
  | succ count ih =>
    have sound := sound_advance balanced
    rw [after]
    cases moved : advance s with
    | goesOn next =>
      rw [moved] at sound
      cases sound with
      | goesOn kept => exact ih kept
    | _ => rwa [moved] at sound

def State.cost (s : State) : Nat := Step.work s.steps

theorem cost_advance {s next : State} (moved : advance s = .goesOn next) : next.cost < s.cost := by
  unfold advance at moved
  split at moved
  case h_1 => cases moved
  case h_2 => cases moved; simp [State.cost, Step.work, Step.cost, Expr.size]
  case h_3 => cases moved; simp [State.cost, Step.work, Step.cost, Expr.size]
  case h_4 => cases moved; simp [State.cost, Step.work, Step.cost, Expr.size]; omega
  case h_5 => cases moved; simp [State.cost, Step.work, Step.cost, Expr.size]; omega
  case h_6 =>
    split at moved
    · cases moved; simp [State.cost, Step.work, Step.cost]
    · cases moved
  case h_7 =>
    split at moved
    · cases moved; simp [State.cost, Step.work, Step.cost]
    · cases moved
  case h_8 => cases moved

theorem cost_after {count : Nat} {s next : State} (going : after count s = .goesOn next) :
    next.cost + count ≤ s.cost := by
  induction count generalizing s with
  | zero =>
    cases going
    exact Nat.le_refl _
  | succ count ih =>
    rw [after] at going
    split at going
    · rename_i middle moved
      have rest := ih going
      have first := cost_advance moved
      omega
    · rename_i ended stays
      exact absurd going (stays next)

def ending : Except RuntimeError Value → Outcome
  | .ok v => .done v []
  | .error err => .failed err

theorem Outcome.eq_ending {outcome : Outcome} {answer : Except RuntimeError Value} (sound : outcome.Sound)
    (ended : ∀ s, outcome ≠ .goesOn s) (same : outcome.answer? = some answer) : outcome = ending answer := by
  cases sound with
  | goesOn => exact absurd rfl (ended _)
  | done =>
    cases same
    rfl
  | failed =>
    cases same
    rfl

theorem balanced_start (e : Expr) : (State.start e).Balanced := ⟨Nat.zero_le _, rfl⟩

theorem after_start (e : Expr) (more : Nat) : after (2 * e.size + 1 + more) (.start e) = ending e.value := by
  apply Outcome.eq_ending (sound_after _ (balanced_start e))
  · intro s going
    have bound := cost_after going
    have cost : (State.start e).cost = 2 * e.size := rfl
    omega
  · rw [← run_eq_after]
    exact run_evaluate_alone e

end Machine

def Expr.postorder : Expr → List Expr
  | literal _ => []
  | group inner => inner.postorder
  | unary operator operand => operand.postorder ++ [unary operator operand]
  | binary left operator right => left.postorder ++ right.postorder ++ [binary left operator right]

def errorOf? : Except RuntimeError Value → Option RuntimeError
  | .ok _ => none
  | .error err => some err

def Expr.ownError? : Expr → Option RuntimeError
  | unary operator operand =>
    match operand.value with
    | .ok v => errorOf? (operator.applyUnary v)
    | .error _ => none
  | binary left operator right =>
    match left.value, right.value with
    | .ok v, .ok w => errorOf? (operator.applyBinary v w)
    | _, _ => none
  | _ => none

theorem Expr.errorOf?_value (e : Expr) : errorOf? e.value = e.postorder.findSome? ownError? := by
  induction e with
  | literal v => rfl
  | group inner ih => exact ih
  | unary operator operand ih =>
    rw [postorder, List.findSome?_append, ← ih]
    cases first : operand.value with
    | error err => simp [value, first, Except.bind, errorOf?]
    | ok v => simp [value, first, Except.bind, errorOf?, ownError?]
  | binary left operator right ihLeft ihRight =>
    rw [postorder, List.findSome?_append, List.findSome?_append, ← ihLeft, ← ihRight]
    cases first : left.value with
    | error err => simp [value, first, Except.bind, errorOf?]
    | ok v =>
      cases second : right.value with
      | error err => simp [value, first, second, Except.bind, errorOf?]
      | ok w => simp [value, first, second, Except.bind, errorOf?, ownError?]

/-- A run is one of rounds that never find too few values and stop after boundedly many, with the value of the
recursion alone on the stack or with its error, which is that of the first operator in postorder to fail. -/
theorem Expr.evaluate_by_rounds (e : Expr) :
    e.evaluate = e.value ∧
      (∀ count, Machine.run [.evaluate e] [] = (Machine.after count (.start e)).answer?) ∧
      (∀ count, Machine.after count (.start e) ≠ .underflow) ∧
      (∀ more, Machine.after (2 * e.size + 1 + more) (.start e) = Machine.ending e.value) ∧
      errorOf? e.evaluate = e.postorder.findSome? ownError? := by
  refine ⟨e.evaluate_eq_value, ?_, ?_, Machine.after_start e, ?_⟩
  · intro count
    exact Machine.run_eq_after count (.start e)
  · intro count under
    have sound := Machine.sound_after count (Machine.balanced_start e)
    rw [under] at sound
    cases sound
  · rw [e.evaluate_eq_value, e.errorOf?_value]

end Reckon
