import Mathlib.Control.Monad.Basic
import Reckon.Expr.Evaluate
import Reckon.Proofs.Layouts

namespace Reckon

namespace Expr

def bare : Expr → Expr
  | literal v => literal v
  | group inner => inner.bare
  | unary operator operand => unary operator operand.bare
  | binary left operator right => binary left.bare operator right.bare

theorem value_bare (e : Expr) : e.bare.value = e.value := by
  induction e with
  | literal v => rfl
  | group inner ih => exact ih
  | unary operator operand ih => rw [bare, value, ih, value]
  | binary left operator right ihLeft ihRight => rw [bare, value, ihLeft, ihRight, value]

theorem words_bare (e : Expr) : e.bare.words = e.words := by
  induction e with
  | literal v => rfl
  | group inner ih => exact ih
  | unary operator operand ih => rw [bare, words, ih, words]
  | binary left operator right ihLeft ihRight => rw [bare, words, ihLeft, ihRight, words]

theorem render_reversePolish_bare (e : Expr) : Layout.reversePolish.render e.bare = Layout.reversePolish.render e := by
  have text := Layout.reversePolish.render_eq_text spelled_reversePolish
  rw [text, text, words_bare]

/-- Trees that are the same without their groups have the same value or end in the same error, and have the same text
in reverse Polish order. -/
theorem groups_leave_no_trace {a b : Expr} (same : a.bare = b.bare) :
    a.evaluate = b.evaluate ∧ Layout.reversePolish.render a = Layout.reversePolish.render b := by
  constructor
  · calc a.evaluate
        = a.bare.value := by rw [evaluate_eq_value, value_bare]
      _ = b.bare.value := by rw [same]
      _ = b.evaluate := by rw [value_bare, evaluate_eq_value]
  · rw [← render_reversePolish_bare a, same, render_reversePolish_bare]

def assignment : Expr :=
  .unary ⟨.mark .minus, "-", 7⟩
    (.group (.group (.binary (.group (.literal (.string "a"))) ⟨.mark .equal, "=", 3⟩
      (.group (.literal (.number (.ofDecimal ⟨1, 0⟩)))))))

theorem assignment_leaves_no_trace :
    assignment.bare = (group assignment.bare).bare ∧ assignment ≠ group assignment.bare ∧
      assignment.evaluate = .error ⟨.unsupportedOperator, 3, "="⟩ ∧
      assignment.evaluate = (group assignment.bare).evaluate ∧
      Layout.reversePolish.render assignment = Layout.reversePolish.render (group assignment.bare) := by
  have same : assignment.bare = (group assignment.bare).bare := by decide +kernel
  exact ⟨same, by decide +kernel, by decide +kernel, groups_leave_no_trace same⟩

end Expr

end Reckon
