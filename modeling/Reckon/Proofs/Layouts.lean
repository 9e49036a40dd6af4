import Reckon.Proofs.Printing

namespace Reckon

namespace Expr

def nodes : Expr → List Expr
  | literal v => [literal v]
  | group inner => group inner :: inner.nodes
  | unary operator operand => unary operator operand :: operand.nodes
  | binary left operator right => binary left operator right :: (left.nodes ++ right.nodes)

def prefixed : Expr → String
  | literal v => v.literalText
  | group inner => "(group " ++ inner.prefixed ++ ")"
  | unary operator operand => "(" ++ operator.lexeme ++ " " ++ operand.prefixed ++ ")"
  | binary left operator right => "(" ++ operator.lexeme ++ " " ++ left.prefixed ++ " " ++ right.prefixed ++ ")"

def words : Expr → List String
  | literal v => [v.literalText]
  | group inner => inner.words
  | unary operator operand => operand.words ++ [operator.lexeme]
  | binary left operator right => left.words ++ right.words ++ [operator.lexeme]

def enclosed (loose : Bool) (text : String) : String := if loose then "(" ++ text ++ ")" else text

def infixed : Expr → String
  | literal v => Layout.quoted v
  | group inner => "(" ++ inner.infixed ++ ")"
  | unary operator operand =>
    operator.lexeme ++ enclosed (operand.precedence.level < Precedence.unary.level) operand.infixed
  | binary left operator right =>
    let level := (binary left operator right).precedence.level
    enclosed (left.precedence.level < level) left.infixed ++ (" " ++ operator.lexeme ++ " ") ++
      enclosed (right.precedence.level < level + 1) right.infixed

def listed (inline : Bool) (depth : Nat) (name : String) (operands : List String) : String :=
  if inline then "(" ++ name ++ " " ++ " ".intercalate operands ++ ")"
  else "(" ++ name ++
    String.join (operands.map fun text => "\n" ++ String.ofList (List.replicate (2 * (depth + 1)) ' ') ++ text) ++ ")"

/-- The operator in front of its operands, which stand on lines of their own unless all of them are literals. -/
def outlined (depth : Nat) : Expr → String
  | literal v => v.literalText
  | group inner => listed inner.isLiteral depth "group" [inner.outlined (depth + 1)]
  | unary operator operand => listed operand.isLiteral depth operator.lexeme [operand.outlined (depth + 1)]
  | binary left operator right =>
    listed (left.isLiteral && right.isLiteral) depth operator.lexeme
      [left.outlined (depth + 1), right.outlined (depth + 1)]

def inlined : Expr → List Expr
  | literal v => [literal v]
  | group inner => group inner :: if inner.isLiteral then [inner] else []
  | unary operator operand => unary operator operand :: if operand.isLiteral then [operand] else []
  | binary left operator right =>
    binary left operator right :: if left.isLiteral && right.isLiteral then [left, right] else []

end Expr

namespace Piece

def textBy (text : Nat → Expr → String) : Piece → String
  | .text s => s
  | .operand depth e => text depth e

def nodes : Piece → List Expr
  | text _ => []
  | operand _ e => e.nodes

def visited : Piece → List Expr
  | text _ => []
  | operand _ e => [e]

end Piece

namespace Layout

structure State where
  out : String
  pieces : List Piece

def State.start (depth : Nat) (e : Expr) : State := ⟨"", [.operand depth e]⟩

def step (layout : Layout) : State → State
  | ⟨out, []⟩ => ⟨out, []⟩
  | ⟨out, .text s :: rest⟩ => ⟨out ++ s, rest⟩
  | ⟨out, .operand depth e :: rest⟩ => ⟨out, layout.pieces depth e ++ rest⟩

def after (layout : Layout) : Nat → State → State
  | 0, s => s
  | count + 1, s => layout.after count (layout.step s)

def visits (layout : Layout) : Nat → State → List Expr
  | 0, _ => []
  | count + 1, s => (s.pieces.head?.elim [] Piece.visited) ++ layout.visits count (layout.step s)

variable (layout : Layout)

theorem write_step (s : State) : layout.write s.out s.pieces = layout.write (layout.step s).out (layout.step s).pieces := by
  obtain ⟨out, pieces⟩ := s
  cases pieces with
  | nil => rfl
  | cons piece rest => cases piece <;> rw [write, step]

theorem work_step (s : State) : Piece.work (layout.step s).pieces ≤ Piece.work s.pieces - 1 := by
  obtain ⟨out, pieces⟩ := s
  cases pieces with
  | nil => exact Nat.zero_le _
  | cons piece rest =>
    cases piece with
    | text s => simp [step, Piece.work]
    | operand depth e =>
      have smaller := layout.smaller depth e
      simp only [step, Piece.work, Piece.work_append]
      omega

theorem pieces_eq_nil_of_work {pieces : List Piece} (none : Piece.work pieces = 0) : pieces = [] := by
  cases pieces with
  | nil => rfl
  | cons piece rest =>
    cases piece with
    | text s => simp [Piece.work] at none
    | operand depth e =>
      have some : 0 < e.size := by cases e <;> exact Nat.succ_pos _
      simp only [Piece.work] at none
      omega

theorem after_eq {count : Nat} {s : State} (enough : Piece.work s.pieces ≤ count) :
    layout.after count s = ⟨layout.write s.out s.pieces, []⟩ := by
  induction count generalizing s with
  | zero =>
    have none := pieces_eq_nil_of_work (Nat.le_zero.mp enough)
    obtain ⟨out, pieces⟩ := s
    cases none
    rw [after, write_nil]
  | succ count ih =>
    have less := layout.work_step s
    rw [after, ih (by omega), ← write_step]

/-- If the text of each node is that of its pieces, then what is pending comes out in its order. -/
theorem write_eq_join {text : Nat → Expr → String}
    (spelled : ∀ depth e, text depth e = String.join ((layout.pieces depth e).map (Piece.textBy text)))
    (out : String) (pieces : List Piece) :
    layout.write out pieces = out ++ String.join (pieces.map (Piece.textBy text)) := by
  fun_induction layout.write out pieces with
  | case1 out => simp
  | case2 out s rest ih => rw [ih, List.map_cons, String.join_cons, Piece.textBy, String.append_assoc]
  | case3 out depth e rest ih =>
    rw [ih, List.map_append, String.join_append, ← spelled, List.map_cons, String.join_cons, Piece.textBy]

theorem write_eq_text {text : Nat → Expr → String}
    (spelled : ∀ depth e, text depth e = String.join ((layout.pieces depth e).map (Piece.textBy text)))
    (depth : Nat) (e : Expr) : layout.write "" [.operand depth e] = text depth e := by
  rw [layout.write_eq_join spelled]
  simp [Piece.textBy]

theorem render_eq_text {text : Nat → Expr → String}
    (spelled : ∀ depth e, text depth e = String.join ((layout.pieces depth e).map (Piece.textBy text))) (e : Expr) :
    layout.render e = text 0 e :=
  layout.write_eq_text spelled 0 e

theorem visits_eq_nodes {covers : Expr → List Expr}
    (complete : ∀ depth e, covers e ++ (layout.pieces depth e).flatMap Piece.nodes = e.nodes)
    {count : Nat} {s : State} (enough : Piece.work s.pieces ≤ count) :
    (layout.visits count s).flatMap covers = s.pieces.flatMap Piece.nodes := by
  induction count generalizing s with
  | zero =>
    rw [pieces_eq_nil_of_work (Nat.le_zero.mp enough)]
    rfl
  | succ count ih =>
    have less := layout.work_step s
    rw [visits, List.flatMap_append, ih (by omega)]
    obtain ⟨out, pieces⟩ := s
    cases pieces with
    | nil => rfl
    | cons piece rest =>
      cases piece with
      | text s => rfl
      | operand depth e => simp [Piece.visited, Piece.nodes, step, ← complete depth e]

structure Writes (e : Expr) (text : Nat → String) (covers : Expr → List Expr) : Prop where
  written : ∀ depth, layout.write "" [.operand depth e] = text depth
  ends : ∀ depth more, layout.after (8 * e.size + more) (.start depth e) = ⟨text depth, []⟩
  visits : ∀ depth more, (layout.visits (8 * e.size + more) (.start depth e)).flatMap covers = e.nodes

theorem writes {text : Nat → Expr → String} {covers : Expr → List Expr}
    (spelled : ∀ depth e, text depth e = String.join ((layout.pieces depth e).map (Piece.textBy text)))
    (complete : ∀ depth e, covers e ++ (layout.pieces depth e).flatMap Piece.nodes = e.nodes) (e : Expr) :
    layout.Writes e (text · e) covers := by
  have written (depth : Nat) := layout.write_eq_text spelled depth e
  have enough (depth more : Nat) : Piece.work (State.start depth e).pieces ≤ 8 * e.size + more := by
    simp [State.start, Piece.work]
  refine ⟨written, ?_, ?_⟩
  · intro depth more
    rw [layout.after_eq (enough depth more), ← written]
    rfl
  · intro depth more
    rw [layout.visits_eq_nodes complete (enough depth more)]
    simp [State.start, Piece.nodes]

end Layout

namespace Expr

theorem words_ne_nil (e : Expr) : e.words ≠ [] := by
  induction e with
  | literal v => exact List.cons_ne_nil _ _
  | group inner ih => exact ih
  | unary operator operand _ => simp [words]
  | binary left operator right _ _ => simp [words]

theorem spelled_oneLine (depth : Nat) (e : Expr) :
    e.prefixed = String.join ((Layout.oneLine.pieces depth e).map (Piece.textBy fun _ e => e.prefixed)) := by
  cases e <;> simp [prefixed, Layout.oneLine, Piece.textBy, String.append_assoc]

theorem spelled_reversePolish (depth : Nat) (e : Expr) : " ".intercalate e.words =
    String.join ((Layout.reversePolish.pieces depth e).map (Piece.textBy fun _ e => " ".intercalate e.words)) := by
  cases e with
  | literal v => simp [words, Layout.reversePolish, Piece.textBy]
  | group inner => simp [words, Layout.reversePolish, Piece.textBy]
  | unary operator operand =>
    rw [words, String.intercalate_append_of_ne_nil operand.words_ne_nil (List.cons_ne_nil _ _)]
    simp [Layout.reversePolish, Piece.textBy, String.append_assoc]
  | binary left operator right =>
    rw [words, String.intercalate_append_of_ne_nil (by simp [left.words_ne_nil]) (List.cons_ne_nil _ _),
      String.intercalate_append_of_ne_nil left.words_ne_nil right.words_ne_nil]
    simp [Layout.reversePolish, Piece.textBy, String.append_assoc]

theorem join_fitted (text : Nat → Expr → String) (depth least : Nat) (e : Expr) :
    String.join ((Layout.fitted depth least e).map (Piece.textBy text)) =
      enclosed (e.precedence.level < least) (text depth e) := by
  unfold Layout.fitted enclosed
  by_cases loose : e.precedence.level < least <;> simp [loose, Piece.textBy, String.append_assoc]

theorem nodes_fitted (depth least : Nat) (e : Expr) :
    (Layout.fitted depth least e).flatMap Piece.nodes = e.nodes := by
  unfold Layout.fitted
  split <;> simp [Piece.nodes]

theorem spelled_source (depth : Nat) (e : Expr) :
    e.infixed = String.join ((Layout.source.pieces depth e).map (Piece.textBy fun _ e => e.infixed)) := by
  cases e with
  | literal v => simp [infixed, Layout.source, Piece.textBy]
  | group inner => simp [infixed, Layout.source, Piece.textBy, String.append_assoc]
  | unary operator operand => simp [infixed, Layout.source, Piece.textBy, join_fitted]
  | binary left operator right => simp [infixed, Layout.source, Piece.textBy, join_fitted, String.append_assoc]

theorem join_spread (depth : Nat) (name : String) (operands : List Expr) :
    String.join ((Layout.spread depth name operands).map (Piece.textBy outlined)) =
      listed false depth name (operands.map (outlined (depth + 1))) := by
  have lines : String.join ((operands.flatMap fun e =>
      [Piece.text (Layout.lineBreak (depth + 1)), .operand (depth + 1) e]).map (Piece.textBy outlined)) =
      String.join ((operands.map (outlined (depth + 1))).map
        fun text => "\n" ++ String.ofList (List.replicate (2 * (depth + 1)) ' ') ++ text) := by
    induction operands with
    | nil => rfl
    | cons e operands ih =>
      rw [List.flatMap_cons, List.map_append, String.join_append, ih]
      simp [Piece.textBy, Layout.lineBreak, String.append_assoc]
  simp [Layout.spread, listed, lines, Piece.textBy, String.append_assoc]

theorem nodes_spread (depth : Nat) (name : String) (operands : List Expr) :
    (Layout.spread depth name operands).flatMap Piece.nodes = operands.flatMap nodes := by
  have inner : (operands.flatMap fun e =>
      [Piece.text (Layout.lineBreak (depth + 1)), .operand (depth + 1) e]).flatMap Piece.nodes =
      operands.flatMap nodes := by
    induction operands with
    | nil => rfl
    | cons e operands ih => simp [Piece.nodes, ih]
  simp [Layout.spread, List.flatMap_append, inner, Piece.nodes]

theorem isLiteral_iff {e : Expr} : e.isLiteral = true ↔ ∃ v, e = literal v := by
  cases e <;> simp [isLiteral]

theorem isLiteral_eq_false {e : Expr} (other : ∀ v, e ≠ literal v) : e.isLiteral = false := by
  rw [Bool.eq_false_iff, ne_eq, isLiteral_iff]
  rintro ⟨v, same⟩
  exact other v same

theorem areLiterals_eq_false {left right : Expr} (others : ∀ v w, left = literal v → right = literal w → False) :
    (left.isLiteral && right.isLiteral) = false := by
  rw [Bool.eq_false_iff, ne_eq, Bool.and_eq_true, isLiteral_iff, isLiteral_iff]
  rintro ⟨⟨v, first⟩, w, second⟩
  exact others v w first second

theorem spelled_outline (depth : Nat) (e : Expr) :
    e.outlined depth = String.join ((Layout.outline.pieces depth e).map (Piece.textBy fun depth e => e.outlined depth)) := by
  simp only [Layout.outline]
  split
  · simp [outlined, Piece.textBy]
  · simp [outlined, listed, isLiteral, Piece.textBy, String.append_assoc]
  · rename_i other
    rw [join_spread, outlined, isLiteral_eq_false other]
    rfl
  · simp [outlined, listed, isLiteral, Piece.textBy, String.append_assoc]
  · rename_i other
    rw [join_spread, outlined, isLiteral_eq_false other]
    rfl
  · simp [outlined, listed, isLiteral, Piece.textBy, String.append_assoc]
  · rename_i others
    rw [join_spread, outlined, areLiterals_eq_false others]
    rfl

theorem complete_outline (depth : Nat) (e : Expr) :
    e.inlined ++ (Layout.outline.pieces depth e).flatMap Piece.nodes = e.nodes := by
  simp only [Layout.outline]
  split
  · rfl
  · rfl
  · rename_i other
    rw [nodes_spread, inlined, isLiteral_eq_false other]
    simp [nodes]
  · rfl
  · rename_i other
    rw [nodes_spread, inlined, isLiteral_eq_false other]
    simp [nodes]
  · rfl
  · rename_i others
    rw [nodes_spread, inlined, areLiterals_eq_false others]
    simp [nodes]

/-- Each rendering is the text that its recursion gives, written in rounds that end and visit each node once, where an
outline writes literals along with their operator if all operands are literals. -/
theorem renderings_recursive (e : Expr) :
    Layout.oneLine.Writes e (fun _ => e.prefixed) (fun node => [node]) ∧
      Layout.reversePolish.Writes e (fun _ => " ".intercalate e.words) (fun node => [node]) ∧
      Layout.source.Writes e (fun _ => e.infixed) (fun node => [node]) ∧
      Layout.outline.Writes e (fun depth => e.outlined depth) inlined := by
  refine ⟨Layout.oneLine.writes ?_ ?_ e, Layout.reversePolish.writes spelled_reversePolish ?_ e,
    Layout.source.writes spelled_source ?_ e, Layout.outline.writes spelled_outline complete_outline e⟩
  · intro depth e
    cases e <;> simp [prefixed, Layout.oneLine, Piece.textBy, String.append_assoc]
  · intro depth e
    cases e <;> simp [nodes, Layout.oneLine, Piece.nodes]
  · intro depth e
    cases e <;> simp [nodes, Layout.reversePolish, Piece.nodes]
  · intro depth e
    cases e <;> simp [nodes, Layout.source, Piece.nodes, nodes_fitted]

end Expr

end Reckon
