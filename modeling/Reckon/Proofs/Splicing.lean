import Reckon.Proofs.Layouts
import Reckon.Proofs.Numerals

namespace Reckon

def spliced : List Char → List Char
  | [] => []
  | c :: rest => if c = '\n' then ' ' :: spliced (rest.dropWhile (· == ' ')) else c :: spliced rest
termination_by text => text.length
decreasing_by
  · exact Nat.lt_succ_of_le (List.dropWhile_suffix _).length_le
  · exact Nat.lt_succ_self _

theorem spliced_append {text : List Char} (whole : '\n' ∉ text) (rest : List Char) :
    spliced (text ++ rest) = text ++ spliced rest := by
  induction text with
  | nil => rfl
  | cons c text ih =>
    rw [List.mem_cons, not_or] at whole
    rw [List.cons_append, spliced, if_neg (Ne.symm whole.1), ih whole.2, List.cons_append]

theorem spliced_lineBreak (depth : Nat) {rest : List Char} (solid : rest.head? ≠ some ' ') :
    spliced ((Layout.lineBreak depth).toList ++ rest) = ' ' :: spliced rest := by
  have spans : Reading.Spans (· == ' ') (List.replicate (2 * depth) ' ') rest := by
    constructor
    · intro c member
      rw [List.eq_of_mem_replicate member]
      rfl
    · rintro c after rfl
      exact beq_eq_false_iff_ne.mpr fun same => solid (congrArg some same)
  have broken : (Layout.lineBreak depth).toList = '\n' :: List.replicate (2 * depth) ' ' := by
    simp [Layout.lineBreak]
  rw [broken, List.cons_append, spliced, if_pos rfl, spans.dropWhile_eq]

def Unspaced (text : String) : Prop := ' ' ∉ text.toList ∧ '\n' ∉ text.toList

theorem Decimal.unspaced_text (d : Decimal) : Unspaced d.text := by
  have other : ∀ t, Symbol.number (.ofDecimal d) ≠ .string t := fun _ => Symbol.noConfusion
  exact ⟨d.lexeme_text.notMem_of_blank other (.inl rfl), d.lexeme_text.notMem_of_blank other (.inr rfl)⟩

theorem Number.unspaced_text (x : Number) : Unspaced x.text := by
  cases x with
  | nan => exact ⟨by decide, by decide⟩
  | signed negative a =>
    obtain ⟨space, newline⟩ := a.shortest.unspaced_text
    cases negative <;> cases infinite : a.isInfinite <;> simp [text, infinite, Unspaced, space, newline]

/-- What stands in front of an operand: a space if the node is written on one line, else a line break. -/
def Layout.gap (inline : Bool) (depth : Nat) : String := if inline then " " else Layout.lineBreak depth

def Layout.EndsGap (inline : Bool) (ahead : List Char) : Prop := inline = true ∨ ahead.head? ≠ some ' '

theorem spliced_gap {inline : Bool} {ahead : List Char} (ends : Layout.EndsGap inline ahead) (depth : Nat) :
    spliced ((Layout.gap inline depth).toList ++ ahead) = ' ' :: spliced ahead := by
  cases inline with
  | true =>
    have space : '\n' ∉ [' '] := by decide
    simpa [Layout.gap] using spliced_append space ahead
  | false => exact spliced_lineBreak depth (ends.resolve_left Bool.false_ne_true)

theorem Layout.endsGap_gap (inline : Bool) (depth : Nat) (rest : List Char) :
    EndsGap inline ((gap inline depth).toList ++ rest) := by
  cases inline with
  | true => exact .inl rfl
  | false => exact .inr (by simp [gap, lineBreak])

def separated (separator : String) (texts : List String) : String := String.join (texts.map (separator ++ ·))

theorem separated_eq_intercalate (separator : String) {texts : List String} (some : texts ≠ []) :
    separated separator texts = separator ++ separator.intercalate texts := by
  induction texts with
  | nil => exact absurd rfl some
  | cons text texts ih =>
    cases texts with
    | nil => simp [separated]
    | cons other texts =>
      have more := ih (List.cons_ne_nil _ _)
      rw [separated] at more ⊢
      rw [List.map_cons, String.join_cons, more, String.intercalate_cons_cons]
      simp [String.append_assoc]

theorem Expr.listed_eq_separated (inline : Bool) (depth : Nat) (name : String) {operands : List String}
    (some : operands ≠ []) : listed inline depth name operands =
      "(" ++ name ++ separated (Layout.gap inline (depth + 1)) operands ++ ")" := by
  cases inline with
  | true => simp [listed, Layout.gap, separated_eq_intercalate " " some, String.append_assoc]
  | false => rfl

/-- A text that is spliced to a line whatever stands behind it, and of which a line break in front takes nothing. -/
structure Splices (text line : String) : Prop where
  whole : ∀ rest, spliced (text.toList ++ rest) = line.toList ++ spliced rest
  solid : text.toList.head? ≠ some ' '

namespace Splices

open Layout

theorem of_unspaced {text : String} (unspaced : Unspaced text) : Splices text text where
  whole := spliced_append unspaced.2
  solid start := unspaced.1 (List.mem_of_mem_head? start)

theorem endsGap {text line : String} (splices : Splices text line) {inline : Bool} {rest : List Char}
    (behind : EndsGap inline rest) : EndsGap inline (text.toList ++ rest) := by
  rcases behind with inline | start
  · exact .inl inline
  · have solid := splices.solid
    cases first : text.toList with
    | nil => exact .inr start
    | cons c cs => exact .inr (by simpa [first] using solid)

variable {operands : List Expr} {text line : Expr → String}

theorem spliced_separated (splices : ∀ e ∈ operands, Splices (text e) (line e)) (inline : Bool) (depth : Nat)
    {rest : List Char} (behind : EndsGap inline rest) :
    spliced ((separated (gap inline depth) (operands.map text)).toList ++ rest) =
      (separated " " (operands.map line)).toList ++ spliced rest := by
  induction operands with
  | nil => rfl
  | cons e operands ih =>
    rw [List.forall_mem_cons] at splices
    -- The text of an operand may be empty, and then the gap in front of it stands in front of what is behind it.
    have ahead : EndsGap inline ((separated (gap inline depth) (operands.map text)).toList ++ rest) := by
      cases operands with
      | nil => exact behind
      | cons other operands => simpa [separated] using endsGap_gap inline depth _
    have more := ih splices.2
    simp only [separated, List.map_cons, String.join_cons, String.toList_append, List.append_assoc] at more ahead ⊢
    rw [spliced_gap (splices.1.endsGap ahead), splices.1.whole, more]
    rfl

theorem listed (splices : ∀ e ∈ operands, Splices (text e) (line e)) (some : operands ≠ []) (inline : Bool)
    (depth : Nat) {name : String} (unspaced : Unspaced name) :
    Splices (Expr.listed inline depth name (operands.map text))
      ("(" ++ name ++ separated " " (operands.map line) ++ ")") := by
  rw [Expr.listed_eq_separated inline depth name (by simpa using some)]
  constructor
  · intro rest
    have opening : '\n' ∉ ("(" ++ name).toList := by simp [unspaced.2]
    have closing : '\n' ∉ [')'] := by decide
    have behind : EndsGap inline ([')'] ++ rest) := .inr (by simp)
    have middle := spliced_separated splices inline (depth + 1) behind
    have whole := spliced_append opening
      ((separated (gap inline (depth + 1)) (operands.map text)).toList ++ ([')'] ++ rest))
    rw [middle, spliced_append closing] at whole
    simpa using whole
  · simp

end Splices

namespace Expr

def Unbroken : Expr → Prop
  | literal (.string s) => Unspaced s
  | literal _ => True
  | group inner => inner.Unbroken
  | unary operator operand => Unspaced operator.lexeme ∧ operand.Unbroken
  | binary left operator right => Unspaced operator.lexeme ∧ left.Unbroken ∧ right.Unbroken

theorem unspaced_literalText {v : Value} (unbroken : (literal v).Unbroken) : Unspaced v.literalText := by
  cases v with
  | number x => exact x.unspaced_text
  | string s => exact unbroken
  | boolean b => cases b <;> exact ⟨by decide, by decide⟩
  | nil => exact ⟨by decide, by decide⟩

theorem splices_outlined {e : Expr} (unbroken : e.Unbroken) (depth : Nat) : Splices (e.outlined depth) e.prefixed := by
  induction e generalizing depth with
  | literal v => exact .of_unspaced (unspaced_literalText unbroken)
  | group inner ih =>
    have name : Unspaced "group" := ⟨by decide, by decide⟩
    have operands : ∀ e ∈ [inner], Splices (e.outlined (depth + 1)) e.prefixed :=
      List.forall_mem_singleton.mpr (ih unbroken (depth + 1))
    have found := Splices.listed operands (List.cons_ne_nil _ _) inner.isLiteral depth name
    simpa [outlined, prefixed, separated, ← String.append_assoc] using found
  | unary operator operand ih =>
    obtain ⟨name, unbroken⟩ := unbroken
    have operands : ∀ e ∈ [operand], Splices (e.outlined (depth + 1)) e.prefixed :=
      List.forall_mem_singleton.mpr (ih unbroken (depth + 1))
    have found := Splices.listed operands (List.cons_ne_nil _ _) operand.isLiteral depth name
    simpa [outlined, prefixed, separated, String.append_assoc] using found
  | binary left operator right ihLeft ihRight =>
    obtain ⟨name, unbrokenLeft, unbrokenRight⟩ := unbroken
    have operands : ∀ e ∈ [left, right], Splices (e.outlined (depth + 1)) e.prefixed :=
      List.forall_mem_cons.mpr ⟨ihLeft unbrokenLeft (depth + 1),
        List.forall_mem_singleton.mpr (ihRight unbrokenRight (depth + 1))⟩
    have found := Splices.listed operands (List.cons_ne_nil _ _) (left.isLiteral && right.isLiteral) depth name
    simpa [outlined, prefixed, separated, String.append_assoc] using found

/-- An outline is the text on one line but for its line breaks, if no part of it has spaces or line breaks of its own. -/
theorem outline_spliced {e : Expr} (unbroken : e.Unbroken) :
    String.ofList (spliced (Layout.outline.render e).toList) = Layout.oneLine.render e := by
  have outline : Layout.outline.render e = e.outlined 0 := Layout.outline.render_eq_text spelled_outline e
  have line : Layout.oneLine.render e = e.prefixed := Layout.oneLine.render_eq_text spelled_oneLine e
  have whole := (splices_outlined unbroken 0).whole []
  rw [List.append_nil, spliced, List.append_nil] at whole
  rw [outline, line, whole, String.ofList_toList]

/-- `-(1 + 2) * ""`, whose last line is empty but for the indentation and a parenthesis. -/
def negatedSum : Expr :=
  .binary
    (.unary ⟨.mark .minus, "-", 1⟩
      (.group (.binary (.literal (.number (.ofDecimal ⟨1, 0⟩))) ⟨.mark .plus, "+", 1⟩
        (.literal (.number (.ofDecimal ⟨2, 0⟩))))))
    ⟨.mark .star, "*", 1⟩ (.literal (.string ""))

theorem negatedSum_spliced :
    negatedSum.Unbroken ∧
      Layout.outline.render negatedSum = "(*\n  (-\n    (group\n      (+ 1 2)))\n  )" ∧
      Layout.oneLine.render negatedSum = "(* (- (group (+ 1 2))) )" ∧
      String.ofList (spliced (Layout.outline.render negatedSum).toList) = Layout.oneLine.render negatedSum := by
  have unbroken : negatedSum.Unbroken :=
    ⟨⟨by decide, by decide⟩, ⟨⟨by decide, by decide⟩, ⟨by decide, by decide⟩, True.intro, True.intro⟩,
      by decide, by decide⟩
  exact ⟨unbroken, by decide +kernel, by decide +kernel, outline_spliced unbroken⟩

end Expr

end Reckon
