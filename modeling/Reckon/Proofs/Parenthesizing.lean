import Reckon.Proofs.Rerunning

namespace Reckon

def Value.Writable : Value → Prop
  | number x => x.isFinite = true
  | string s => '"' ∉ s.toList
  | boolean _ | nil => True

namespace Expr

/-- The operators are those of the grammar in their own lexemes, and all literals can be written. -/
def Writable : Expr → Prop
  | literal v => v.Writable
  | group inner => inner.Writable
  | unary operator operand => operator.isPrefixOperator = true ∧ operator.Written ∧ operand.Writable
  | binary left operator right =>
    operator.precedence?.isSome = true ∧ operator.Written ∧ left.Writable ∧ right.Writable

section Binding

variable {least : Nat} {q : Precedence} {e : Expr}

theorem bound_fitted : (fitted least q e).Bound ↔ e.Bound := by
  unfold fitted
  split <;> rfl

theorem level_le_parenthesized (small : least ≤ Precedence.unary.level) (fits : least ≤ e.precedence.level) :
    least ≤ e.parenthesized.precedence.level := by
  cases e with
  | literal v =>
    rcases ofValue_cases v with ⟨a, -, same⟩ | ⟨-, same⟩
    · rw [parenthesized, same]
      exact small
    · rw [parenthesized, same]
      exact fits
  | group inner => exact fits
  | unary operator operand => exact fits
  | binary left operator right => exact fits

theorem level_le_fitted (small : least ≤ Precedence.unary.level) :
    least ≤ (fitted least e.precedence e.parenthesized).precedence.level := by
  unfold fitted
  split
  · have primary : Precedence.unary.level ≤ Precedence.primary.level := by decide
    exact Nat.le_trans small primary
  · rename_i fits
    exact level_le_parenthesized small (Nat.not_lt.mp fits)

theorem bound_parenthesized (writable : e.Writable) : e.parenthesized.Bound := by
  induction e with
  | literal v =>
    rcases ofValue_cases v with ⟨a, -, same⟩ | ⟨-, same⟩
    · rw [parenthesized, same]
      have primary : Precedence.unary.level ≤ Precedence.primary.level := by decide
      exact ⟨rfl, primary, True.intro⟩
    · rw [parenthesized, same]
      exact True.intro
  | group inner ih => exact ih writable
  | unary operator operand ih =>
    obtain ⟨stands, -, inner⟩ := writable
    exact ⟨stands, level_le_fitted (Nat.le_refl _), bound_fitted.mpr (ih inner)⟩
  | binary left operator right ihLeft ihRight =>
    obtain ⟨known, -, writableLeft, writableRight⟩ := writable
    obtain ⟨r, found⟩ := Option.isSome_iff_exists.mp known
    have loose := Token.level_lt_of_precedence? found
    have level : (binary left operator right).precedence.level = r.level :=
      congrArg Precedence.level (precedence_binary found)
    simp only [parenthesized, level]
    refine ⟨r, found, level_le_fitted (Nat.le_of_lt loose), level_le_fitted loose, ?_, ?_⟩
    · exact bound_fitted.mpr (ihLeft writableLeft)
    · exact bound_fitted.mpr (ihRight writableRight)

end Binding

theorem value_fitted (least : Nat) (q : Precedence) (e : Expr) : (fitted least q e).value = e.value := by
  unfold fitted
  split <;> rfl

theorem value_parenthesized (e : Expr) : e.parenthesized.value = e.value := by
  induction e with
  | literal v =>
    rcases ofValue_cases v with ⟨a, rfl, same⟩ | ⟨-, same⟩
    · rw [parenthesized, same]
      rfl
    · rw [parenthesized, same]
  | group inner ih => exact ih
  | unary operator operand ih => rw [parenthesized, value, value_fitted, ih, value]
  | binary left operator right ihLeft ihRight =>
    rw [parenthesized, value, value_fitted, value_fitted, ihLeft, ihRight, value]

def Legible (e : Expr) : Prop := ∃ tokens, e.Reads tokens ∧ ∀ t ∈ tokens, t.Written

namespace Legible

variable {e left right : Expr} {operator : Token}

theorem literal {v : Value} (lexeme : Lexeme (Layout.quoted v).toList v.symbol)
    (finite : (Expr.literal v).isFinite = true) : (Expr.literal v).Legible := by
  refine ⟨[⟨v.symbol, Layout.quoted v, 1⟩], .literal rfl, ?_⟩
  have reads : (Expr.literal v).Reads [⟨v.symbol, Layout.quoted v, 1⟩] := .literal rfl
  rw [← reads.isFinite_eq True.intro, List.all_eq_true] at finite
  intro t member
  obtain rfl := List.mem_singleton.mp member
  exact ⟨lexeme, finite _ member⟩

theorem group (inner : e.Legible) : (Expr.group e).Legible := by
  obtain ⟨tokens, reads, written⟩ := inner
  refine ⟨⟨.mark .leftParen, Mark.leftParen.text, 1⟩ :: tokens ++ [⟨.mark .rightParen, Mark.rightParen.text, 1⟩],
    .group rfl rfl reads, ?_⟩
  simp only [List.cons_append, List.forall_mem_cons, List.forall_mem_append]
  exact ⟨⟨.mark .leftParen, rfl⟩, written, ⟨.mark .rightParen, rfl⟩, List.forall_mem_nil _⟩

theorem unary (written : operator.Written) (operand : e.Legible) : (Expr.unary operator e).Legible := by
  obtain ⟨tokens, reads, others⟩ := operand
  exact ⟨operator :: tokens, .unary reads, List.forall_mem_cons.mpr ⟨written, others⟩⟩

theorem binary (written : operator.Written) (first : left.Legible) (second : right.Legible) :
    (Expr.binary left operator right).Legible := by
  obtain ⟨before, readsLeft, writtenLeft⟩ := first
  obtain ⟨after, readsRight, writtenRight⟩ := second
  refine ⟨before ++ operator :: after, .binary readsLeft readsRight, ?_⟩
  rw [List.forall_mem_append, List.forall_mem_cons]
  exact ⟨writtenLeft, written, writtenRight⟩

theorem fitted (operand : e.Legible) (least : Nat) (q : Precedence) : (Expr.fitted least q e).Legible := by
  unfold Expr.fitted
  split
  · exact operand.group
  · exact operand

theorem ofValue {v : Value} (writable : v.Writable) : (Expr.ofValue v).Legible := by
  have positive {a : Magnitude} (finite : (Number.signed false a).isFinite = true) :
      (Expr.literal (.number (.signed false a))).Legible :=
    literal (Number.lexeme_text (Bool.not_eq_true' _ ▸ finite)) finite
  rcases ofValue_cases v with ⟨a, rfl, same⟩ | ⟨other, same⟩
  · rw [same]
    exact unary ⟨.mark .minus, rfl⟩ (positive writable)
  · rw [same]
    cases v with
    | number x =>
      cases x with
      | nan => cases writable
      | signed s a =>
        cases s with
        | true => exact absurd rfl (other a)
        | false => exact positive writable
    | string s =>
      refine literal ?_ rfl
      have lexeme := Lexeme.string writable
      rw [String.ofList_toList] at lexeme
      simpa [Layout.quoted, Value.symbol] using lexeme
    | boolean b =>
      refine literal ?_ rfl
      cases b
      · exact .keyword .false
      · exact .keyword .true
    | nil => exact literal (.keyword .nil) rfl

theorem parenthesized (writable : e.Writable) : e.parenthesized.Legible := by
  induction e with
  | literal v => exact ofValue writable
  | group inner ih => exact (ih writable).group
  | unary operator operand ih =>
    obtain ⟨-, written, inner⟩ := writable
    exact unary written ((ih inner).fitted _ _)
  | binary left operator right ihLeft ihRight =>
    obtain ⟨-, written, writableLeft, writableRight⟩ := writable
    exact binary written ((ihLeft writableLeft).fitted _ _) ((ihRight writableRight).fitted _ _)

end Legible

/-- The source of a tree that can be written is parsed as its parenthesized tree, up to lines, if that nests no deeper
than a parse may. The values are the same, or the errors up to their lines. -/
theorem source_parses_parenthesized {e : Expr} (writable : e.Writable)
    (shallow : e.parenthesized.nesting ≤ Parser.maxDepth) :
    (Scan.ofText (Layout.source.render e)).errors = [] ∧
      ∃ again, ofTokens (Scan.ofText (Layout.source.render e)).tokens = .ok again ∧
        again.unlined = e.parenthesized.unlined ∧
        again.evaluate.mapError RuntimeError.unlined = e.evaluate.mapError RuntimeError.unlined := by
  obtain ⟨tokens, reads, written⟩ := Legible.parenthesized writable
  have loosest : Precedence.equality.level ≤ e.parenthesized.precedence.level := by
    cases e.parenthesized.precedence <;> decide
  have spells : e.parenthesized.Spells Parser.maxDepth .equality tokens :=
    ⟨reads, bound_parenthesized writable, loosest, shallow⟩
  obtain ⟨errors, again, parsed, tree⟩ := spells.read_back written e.toList_render_parenthesized
  have values := value_of_unlined tree
  rw [value_parenthesized, ← evaluate_eq_value, ← evaluate_eq_value] at values
  exact ⟨errors, again, parsed, tree, values⟩

/-- A tree without groups for `-(1 + -2.5) - ("a" - -0)`. -/
def ungrouped : Expr :=
  .binary
    (.unary ⟨.mark .minus, "-", 3⟩
      (.binary (.literal (.number (.ofDecimal ⟨1, 0⟩))) ⟨.mark .plus, "+", 3⟩
        (.literal (.number (.neg (.ofDecimal ⟨25, 1⟩))))))
    ⟨.mark .minus, "-", 7⟩
    (.binary (.literal (.string "a")) ⟨.mark .minus, "-", 5⟩ (.literal (.number (.signed true .zero))))

theorem ungrouped_parses_parenthesized :
    ungrouped.Writable ∧ ungrouped.parenthesized.nesting ≤ Parser.maxDepth ∧
      (Scan.ofText (Layout.source.render ungrouped)).errors = [] ∧
      ∃ again, ofTokens (Scan.ofText (Layout.source.render ungrouped)).tokens = .ok again ∧
        again.unlined = ungrouped.parenthesized.unlined ∧
        again.evaluate.mapError RuntimeError.unlined = ungrouped.evaluate.mapError RuntimeError.unlined := by
  have minus {line : Nat} : Token.Written ⟨.mark .minus, "-", line⟩ := ⟨.mark .minus, rfl⟩
  have plus {line : Nat} : Token.Written ⟨.mark .plus, "+", line⟩ := ⟨.mark .plus, rfl⟩
  have writable : ungrouped.Writable := by
    refine ⟨rfl, minus, ⟨rfl, minus, rfl, plus, ?_, ?_⟩, rfl, minus, ?_, ?_⟩
    · show (Number.ofDecimal ⟨1, 0⟩).isFinite = true
      decide +kernel
    · show (Number.ofDecimal ⟨25, 1⟩).neg.isFinite = true
      decide +kernel
    · show '"' ∉ "a".toList
      decide
    · rfl
  have shallow : ungrouped.parenthesized.nesting ≤ Parser.maxDepth := by decide +kernel
  exact ⟨writable, shallow, source_parses_parenthesized writable shallow⟩

end Expr

end Reckon
