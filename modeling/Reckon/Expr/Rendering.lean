import Reckon.Expr.Precedence

namespace Reckon

inductive Piece where
  | text (s : String)
  | operand (depth : Nat) (e : Expr)

namespace Piece

def work : List Piece → Nat
  | [] => 0
  | text _ :: rest => 1 + work rest
  | operand _ e :: rest => 8 * e.size + work rest

theorem work_append (front back : List Piece) : work (front ++ back) = work front + work back := by
  induction front with
  | nil => simp [work]
  | cons piece front ih => cases piece <;> simp [work, ih, Nat.add_assoc]

end Piece

/-- How a node at an indentation is written. As operands, the pieces have proper parts of it only. -/
structure Layout where
  pieces : Nat → Expr → List Piece
  smaller : ∀ depth e, Piece.work (pieces depth e) < 8 * e.size

namespace Layout

def write (layout : Layout) (out : String) : List Piece → String
  | [] => out
  | .text s :: rest => layout.write (out ++ s) rest
  | .operand depth e :: rest => layout.write out (layout.pieces depth e ++ rest)
termination_by pieces => Piece.work pieces
decreasing_by
  · simp [Piece.work]
  · rw [Piece.work_append]
    exact Nat.add_lt_add_right (layout.smaller depth e) _

def render (layout : Layout) (e : Expr) : String := layout.write "" [.operand 0 e]

def oneLine : Layout where
  pieces depth
    | .literal v => [.text v.literalText]
    | .group inner => [.text "(group ", .operand depth inner, .text ")"]
    | .unary operator operand => [.text ("(" ++ operator.lexeme ++ " "), .operand depth operand, .text ")"]
    | .binary left operator right =>
      [.text ("(" ++ operator.lexeme ++ " "), .operand depth left, .text " ", .operand depth right, .text ")"]
  smaller depth e := by cases e <;> simp [Piece.work, Expr.size] <;> omega

def lineBreak (depth : Nat) : String := "\n" ++ String.ofList (List.replicate (2 * depth) ' ')

def spread (depth : Nat) (name : String) (operands : List Expr) : List Piece :=
  [.text "(", .text name] ++
    operands.flatMap (fun e => [.text (lineBreak (depth + 1)), .operand (depth + 1) e]) ++ [.text ")"]

theorem work_spread (depth : Nat) (name : String) (operands : List Expr) :
    Piece.work (spread depth name operands) =
      Piece.work (operands.map (Piece.operand depth)) + operands.length + 3 := by
  have within : Piece.work
      (operands.flatMap fun e => [.text (lineBreak (depth + 1)), .operand (depth + 1) e]) =
      Piece.work (operands.map (Piece.operand depth)) + operands.length := by
    induction operands with
    | nil => rfl
    | cons e operands ih => simp [Piece.work, ih]; omega
  simp only [spread, Piece.work_append, within]
  simp [Piece.work]
  omega

/-- An operator with its operands below each other, or on its own line if all of them are literals. -/
def outline : Layout where
  pieces depth
    | .literal v => [.text v.literalText]
    | .group (.literal v) => [.text ("(group " ++ v.literalText ++ ")")]
    | .group inner => spread depth "group" [inner]
    | .unary operator (.literal v) => [.text ("(" ++ operator.lexeme ++ " " ++ v.literalText ++ ")")]
    | .unary operator operand => spread depth operator.lexeme [operand]
    | .binary (.literal v) operator (.literal w) =>
      [.text ("(" ++ operator.lexeme ++ " " ++ v.literalText ++ " " ++ w.literalText ++ ")")]
    | .binary left operator right => spread depth operator.lexeme [left, right]
  smaller depth e := by split <;> simp [Piece.work, work_spread, Expr.size] <;> omega

def reversePolish : Layout where
  pieces depth
    | .literal v => [.text v.literalText]
    | .group inner => [.operand depth inner]
    | .unary operator operand => [.operand depth operand, .text (" " ++ operator.lexeme)]
    | .binary left operator right =>
      [.operand depth left, .text " ", .operand depth right, .text (" " ++ operator.lexeme)]
  smaller depth e := by cases e <;> simp [Piece.work, Expr.size] <;> omega

/-- An operand in a place that requires `least`, in parentheses if it binds looser. -/
def fitted (depth : Nat) (least : Nat) (e : Expr) : List Piece :=
  if e.precedence.level < least then [.text "(", .operand depth e, .text ")"] else [.operand depth e]

theorem work_fitted (depth least : Nat) (e : Expr) : Piece.work (fitted depth least e) ≤ 8 * e.size + 2 := by
  unfold fitted
  split
  · simp only [Piece.work]
    omega
  · simp [Piece.work]

def quoted : Value → String
  | .string s => "\"" ++ s ++ "\""
  | v => v.literalText

/-- Source that reads back. The right operand of a binary operator has to bind tighter than the left. -/
def source : Layout where
  pieces depth
    | .literal v => [.text (quoted v)]
    | .group inner => [.text "(", .operand depth inner, .text ")"]
    | .unary operator operand => .text operator.lexeme :: fitted depth Precedence.unary.level operand
    | .binary left operator right =>
      let level := (Expr.binary left operator right).precedence.level
      fitted depth level left ++ .text (" " ++ operator.lexeme ++ " ") :: fitted depth (level + 1) right
  smaller depth e := by
    have fits := work_fitted depth
    cases e with
    | literal v => simp [Piece.work, Expr.size]
    | group inner => simp [Piece.work, Expr.size]; omega
    | unary operator operand =>
      have := fits Precedence.unary.level operand
      simp only [Piece.work, Expr.size]
      omega
    | binary left operator right =>
      have := fits (Expr.binary left operator right).precedence.level left
      have := fits ((Expr.binary left operator right).precedence.level + 1) right
      simp only [Piece.work_append, Piece.work, Expr.size]
      omega

end Layout

inductive Rendering where
  | outline
  | reversePolish
  | source
deriving DecidableEq

def Rendering.layout : Rendering → Layout
  | outline => .outline
  | reversePolish => .reversePolish
  | source => .source

end Reckon
