import Reckon.Expr.Rendering
import Reckon.Proofs.Grammar

namespace Reckon

namespace Layout

variable (layout : Layout)

theorem write_append_out (first out : String) (pieces : List Piece) :
    layout.write (first ++ out) pieces = first ++ layout.write out pieces := by
  fun_induction layout.write out pieces with
  | case1 out => rw [write]
  | case2 out s rest ih => rw [write, String.append_assoc, ih]
  | case3 out depth e rest ih => rw [write, ih]

theorem write_eq (out : String) (pieces : List Piece) :
    layout.write out pieces = out ++ layout.write "" pieces := by
  rw [← write_append_out, String.append_empty]

theorem write_append (out : String) (front back : List Piece) :
    layout.write out (front ++ back) = layout.write out front ++ layout.write "" back := by
  fun_induction layout.write out front with
  | case1 out => exact layout.write_eq out back
  | case2 out s rest ih => rw [List.cons_append, write, ih]
  | case3 out depth e rest ih => rw [List.cons_append, write, ← List.append_assoc, ih]

def textAt (depth : Nat) (e : Expr) : String := layout.write "" (layout.pieces depth e)

@[simp] theorem write_nil (out : String) : layout.write out [] = out := by rw [write]

@[simp] theorem write_text (out s : String) (rest : List Piece) :
    layout.write out (.text s :: rest) = out ++ (s ++ layout.write "" rest) := by
  rw [write, write_eq, String.append_assoc]

@[simp] theorem write_operand (out : String) (depth : Nat) (e : Expr) (rest : List Piece) :
    layout.write out (.operand depth e :: rest) = out ++ (layout.textAt depth e ++ layout.write "" rest) := by
  rw [write, write_append, write_eq, textAt, String.append_assoc]

theorem render_eq_textAt (e : Expr) : layout.render e = layout.textAt 0 e := by
  simp [render]

end Layout

namespace Expr

/-- The source of a tree whose operands all bind tightly enough for their places. -/
def spelling : Expr → List Char
  | literal v => (Layout.quoted v).toList
  | group inner => '(' :: (inner.spelling ++ [')'])
  | unary operator operand => operator.lexeme.toList ++ operand.spelling
  | binary left operator right => left.spelling ++ ' ' :: (operator.lexeme.toList ++ ' ' :: right.spelling)

def ofValue : Value → Expr
  | .number (.signed true a) => unary ⟨.mark .minus, Mark.minus.text, 1⟩ (literal (.number (.signed false a)))
  | v => literal v

def fitted (least : Nat) (q : Precedence) (operand : Expr) : Expr :=
  if q.level < least then group operand else operand

/-- The tree with a group around each operand that binds looser than its place requires, and with the signs of its
numbers as operators. -/
def parenthesized : Expr → Expr
  | literal v => ofValue v
  | group inner => group inner.parenthesized
  | unary operator operand =>
    unary operator (fitted Precedence.unary.level operand.precedence operand.parenthesized)
  | binary left operator right =>
    let level := (binary left operator right).precedence.level
    binary (fitted level left.precedence left.parenthesized) operator
      (fitted (level + 1) right.precedence right.parenthesized)

theorem ofValue_cases (v : Value) :
    (∃ a, v = .number (.signed true a) ∧
      ofValue v = unary ⟨.mark .minus, Mark.minus.text, 1⟩ (literal (.number (.signed false a)))) ∨
    (∀ a, v ≠ .number (.signed true a)) ∧ ofValue v = literal v := by
  unfold ofValue
  split
  · exact .inl ⟨_, rfl, rfl⟩
  · rename_i other
    exact .inr ⟨other, rfl⟩

theorem spelling_ofValue (v : Value) : (ofValue v).spelling = (Layout.quoted v).toList := by
  rcases ofValue_cases v with ⟨a, rfl, same⟩ | ⟨-, same⟩
  · rw [same]
    simp [spelling, Layout.quoted, Value.literalText, Number.text, Mark.text]
  · rw [same, spelling]

theorem write_fitted {depth least : Nat} {e : Expr}
    (text : (Layout.source.textAt depth e).toList = e.parenthesized.spelling) :
    (Layout.source.write "" (Layout.fitted depth least e)).toList =
      (fitted least e.precedence e.parenthesized).spelling := by
  unfold Layout.fitted fitted
  split
  · simp [spelling, text]
  · simp [text]

theorem source_textAt_parenthesized (e : Expr) (depth : Nat) :
    (Layout.source.textAt depth e).toList = e.parenthesized.spelling := by
  induction e generalizing depth with
  | literal v =>
    rw [parenthesized, spelling_ofValue]
    simp [Layout.textAt, Layout.source]
  | group inner ih =>
    have text : Layout.source.textAt depth (group inner) = "(" ++ (Layout.source.textAt depth inner ++ ")") := by
      simp [Layout.textAt, Layout.source]
    rw [text, String.toList_append, String.toList_append, ih]
    rfl
  | unary operator operand ih =>
    have text : Layout.source.textAt depth (unary operator operand) = operator.lexeme ++
        Layout.source.write "" (Layout.fitted depth Precedence.unary.level operand) := by
      simp [Layout.textAt, Layout.source]
    rw [text, String.toList_append, write_fitted (ih depth), parenthesized, spelling]
  | binary left operator right ihLeft ihRight =>
    have text : Layout.source.textAt depth (binary left operator right) =
        Layout.source.write "" (Layout.fitted depth (binary left operator right).precedence.level left) ++
          (" " ++ operator.lexeme ++ " " ++ Layout.source.write ""
            (Layout.fitted depth ((binary left operator right).precedence.level + 1) right)) := by
      simp [Layout.textAt, Layout.source, Layout.write_append, String.append_assoc]
    simp only [text, String.toList_append, write_fitted (ihLeft depth), write_fitted (ihRight depth), parenthesized,
      spelling]
    simp

theorem toList_render_parenthesized (e : Expr) : (Layout.source.render e).toList = e.parenthesized.spelling := by
  rw [Layout.render_eq_textAt, source_textAt_parenthesized]

theorem fitted_eq {least : Nat} {q : Precedence} {e : Expr} (fits : least ≤ q.level) : fitted least q e = e :=
  if_neg (Nat.not_lt.mpr fits)

theorem spelling_parenthesized {e : Expr} (bound : e.Bound) : e.parenthesized.spelling = e.spelling := by
  induction e with
  | literal v => exact spelling_ofValue v
  | group inner ih => rw [parenthesized, spelling, ih bound, spelling]
  | unary operator operand ih =>
    obtain ⟨-, fits, inner⟩ := bound
    rw [parenthesized, fitted_eq fits, spelling, ih inner, spelling]
  | binary left operator right ihLeft ihRight =>
    obtain ⟨q, found, fitsLeft, fitsRight, boundLeft, boundRight⟩ := bound
    rw [← @precedence_binary left right operator q found] at fitsLeft fitsRight
    rw [parenthesized, fitted_eq fitsLeft, fitted_eq fitsRight, spelling, ihLeft boundLeft, ihRight boundRight,
      spelling]

theorem toList_render_source {e : Expr} (bound : e.Bound) : (Layout.source.render e).toList = e.spelling := by
  rw [toList_render_parenthesized, spelling_parenthesized bound]

end Expr

end Reckon
