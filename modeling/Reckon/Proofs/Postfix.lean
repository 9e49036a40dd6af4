import Reckon.Proofs.Groups
import Reckon.Proofs.Rerunning

namespace Reckon

inductive Word where
  | operand (v : Value)
  | unary (operator : Token)
  | binary (operator : Token)

namespace Word

def text : Word → String
  | operand v => v.literalText
  | unary operator | binary operator => operator.lexeme

/-- Builds trees of words, each operator of the last trees that were built. There is no answer if too few are. -/
def build : List Word → List Expr → Option (List Expr)
  | [], built => some built
  | operand v :: rest, built => build rest (.literal v :: built)
  | unary operator :: rest, inner :: built => build rest (.unary operator inner :: built)
  | binary operator :: rest, right :: left :: built => build rest (.binary left operator right :: built)
  | _, _ => none

/-- The words that are told by their texts. -/
inductive Clear : Word → Prop
  | number (a : Magnitude) : Clear (.operand (.number (.signed false a)))
  | boolean (b : Bool) : Clear (.operand (.boolean b))
  | nil : Clear (.operand .nil)
  | not : Clear (.unary ⟨.mark .bang, Mark.bang.text, 0⟩)
  | binary {m : Mark} (known : m.precedence?.isSome = true) : Clear (.binary ⟨.mark m, m.text, 0⟩)

def symbol : Word → Symbol
  | operand (.number x) => if x.isFinite then .number x else .identifier
  | operand v => v.symbol
  | unary operator | binary operator => operator.symbol

def ofSymbol : Symbol → Word
  | .number x => operand (.number x)
  | .identifier => operand (.number (.signed false .infinity))
  | .keyword .true => operand (.boolean true)
  | .keyword .false => operand (.boolean false)
  | .mark .bang => unary ⟨.mark .bang, Mark.bang.text, 0⟩
  | .mark m => binary ⟨.mark m, m.text, 0⟩
  | _ => operand .nil

end Word

theorem Magnitude.eq_infinity {a : Magnitude} (infinite : a.isInfinite = true) : a = infinity := by
  obtain ⟨rank, bound⟩ := a
  rw [isInfinite, beq_iff_eq] at infinite
  cases infinite
  rfl

namespace Word.Clear

variable {v w : Word}

theorem lexeme (clear : w.Clear) : Lexeme w.text.toList w.symbol := by
  cases clear with
  | number a =>
    cases infinite : a.isInfinite with
    | true => simpa [text, Value.literalText, symbol, Number.isFinite, infinite] using
        Number.lexeme_text_of_isInfinite infinite
    | false => simpa [text, Value.literalText, symbol, Number.isFinite, infinite] using Number.lexeme_text infinite
  | boolean b =>
    cases b
    · exact .keyword .false
    · exact .keyword .true
  | nil => exact .keyword .nil
  | not => exact .mark .bang
  | binary => exact .mark _

theorem ofSymbol_symbol (clear : w.Clear) : ofSymbol w.symbol = w := by
  cases clear with
  | number a =>
    cases infinite : a.isInfinite with
    | true =>
      obtain rfl := Magnitude.eq_infinity infinite
      rfl
    | false => simp [symbol, Number.isFinite, infinite, ofSymbol]
  | boolean b => cases b <;> rfl
  | nil => rfl
  | not => rfl
  | @binary m known =>
    cases m with
    | bang => cases known
    | _ => rfl

theorem spaceless (clear : w.Clear) : ' ' ∉ w.text.toList := by
  apply clear.lexeme.notMem_of_blank _ (.inl rfl)
  intro s same
  have found := clear.ofSymbol_symbol
  rw [same] at found
  subst found
  cases same

theorem eq_of_text (first : v.Clear) (second : w.Clear) (same : v.text = w.text) : v = w := by
  have lexeme := first.lexeme
  rw [same] at lexeme
  rw [← first.ofSymbol_symbol, lexeme.symbol_unique second.lexeme, second.ofSymbol_symbol]

theorem eq_of_texts {first second : List Word} (clear : ∀ w ∈ first, w.Clear) (others : ∀ w ∈ second, w.Clear)
    (same : first.map text = second.map text) : first = second := by
  induction first generalizing second with
  | nil => exact (List.map_eq_nil_iff.mp same.symm).symm
  | cons v first ih =>
    obtain ⟨w, rest, rfl, spelled, more⟩ := List.map_eq_cons_iff.mp same.symm
    rw [List.forall_mem_cons] at clear others
    rw [eq_of_text clear.1 others.1 spelled.symm, ih clear.2 others.2 more.symm]

end Word.Clear

namespace Expr

def code : Expr → List Word
  | literal v => [.operand v]
  | group inner => inner.code
  | unary operator operand => operand.code ++ [.unary operator.unlined]
  | binary left operator right => left.code ++ right.code ++ [.binary operator.unlined]

theorem words_eq_texts (e : Expr) : e.words = e.code.map Word.text := by
  induction e with
  | literal v => rfl
  | group inner ih => exact ih
  | unary operator operand ih => rw [words, ih, code, List.map_append]; rfl
  | binary left operator right ihLeft ihRight =>
    rw [words, ihLeft, ihRight, code, List.map_append, List.map_append]
    rfl

theorem build_code (e : Expr) (rest : List Word) (built : List Expr) :
    Word.build (e.code ++ rest) built = Word.build rest (e.bare.unlined :: built) := by
  induction e generalizing rest built with
  | literal v => rfl
  | group inner ih => exact ih rest built
  | unary operator operand ih =>
    rw [code, List.append_assoc, ih]
    rfl
  | binary left operator right ihLeft ihRight =>
    rw [code, List.append_assoc, List.append_assoc, ihLeft, ihRight]
    rfl

theorem build_code_alone (e : Expr) : Word.build e.code [] = some [e.bare.unlined] := by
  have whole := e.build_code [] []
  rwa [List.append_nil] at whole

def Unambiguous : Expr → Prop
  | literal (.string _) => False
  | literal _ => True
  | group inner => inner.Unambiguous
  | unary operator operand => operator.symbol ≠ .mark .minus ∧ operand.Unambiguous
  | binary left _ right => left.Unambiguous ∧ right.Unambiguous

end Expr

theorem Token.unlined_eq {t : Token} {m : Mark} (lexeme : Lexeme t.lexeme.toList t.symbol)
    (symbol : t.symbol = .mark m) : t.unlined = ⟨.mark m, m.text, 0⟩ := by
  have spelled := String.toList_inj.mp (mark_text lexeme symbol)
  rw [unlined, symbol, spelled]

namespace Expr

variable {e : Expr} {tokens : List Token}

theorem Reads.clear (reads : e.Reads tokens) (bound : e.Bound)
    (lexemes : ∀ t ∈ tokens, Lexeme t.lexeme.toList t.symbol) (unambiguous : e.Unambiguous) :
    ∀ w ∈ e.code, w.Clear := by
  induction reads with
  | @literal v token same =>
    have lexeme := lexemes token List.mem_cons_self
    rw [same] at lexeme
    rw [code, List.forall_mem_singleton]
    cases v with
    | number x =>
      generalize token.lexeme.toList = text at lexeme
      cases lexeme with
      | whole => exact .number _
      | fraction => exact .number _
    | string s => cases unambiguous
    | boolean b => exact .boolean b
    | nil => exact .nil
  | group _ _ _ ih => exact ih bound (fun t member => lexemes t (by simp [member])) unambiguous
  | @unary operator operand tokens _ ih =>
    obtain ⟨other, unambiguous⟩ := unambiguous
    have symbol := (Token.isPrefixOperator_iff.mp bound.1).resolve_right other
    rw [List.forall_mem_cons] at lexemes
    rw [code, List.forall_mem_append, List.forall_mem_singleton, Token.unlined_eq lexemes.1 symbol]
    exact ⟨ih bound.2.2 lexemes.2 unambiguous, .not⟩
  | @binary left right operator before after _ _ ihLeft ihRight =>
    obtain ⟨q, found, -, -, boundLeft, boundRight⟩ := bound
    obtain ⟨unambiguousLeft, unambiguousRight⟩ := unambiguous
    obtain ⟨m, -, symbol⟩ := Token.precedence?_eq_some_iff.mp found
    have known : m.precedence?.isSome = true := by
      rw [Token.precedence?, symbol] at found
      exact Option.isSome_of_eq_some found
    rw [List.forall_mem_append, List.forall_mem_cons] at lexemes
    rw [code, List.forall_mem_append, List.forall_mem_append, List.forall_mem_singleton,
      Token.unlined_eq lexemes.2.1 symbol]
    exact ⟨⟨ihLeft boundLeft lexemes.1 unambiguousLeft, ihRight boundRight lexemes.2.2 unambiguousRight⟩,
      .binary known⟩

theorem splitOn_render (clear : ∀ w ∈ e.code, w.Clear) :
    (Layout.reversePolish.render e).toList.splitOn ' ' = e.words.map String.toList := by
  have text : Layout.reversePolish.render e = " ".intercalate e.words :=
    Layout.reversePolish.render_eq_text spelled_reversePolish e
  have spaceless : ∀ word ∈ e.words.map String.toList, ' ' ∉ word := by
    rw [words_eq_texts, List.map_map, List.forall_mem_map]
    exact fun w member => (clear w member).spaceless
  have space : (" ").toList = [' '] := rfl
  rw [text, String.toList_intercalate, space]
  exact List.splitOn_intercalate ' ' spaceless (by simpa using e.words_ne_nil)

theorem bare_of_render {a b : Expr} (clear : ∀ w ∈ a.code, w.Clear) (others : ∀ w ∈ b.code, w.Clear)
    (same : Layout.reversePolish.render a = Layout.reversePolish.render b) : a.bare.unlined = b.bare.unlined := by
  have texts : a.words = b.words := by
    have split := splitOn_render clear
    rw [same, splitOn_render others] at split
    exact (List.map_inj_right fun _ _ => String.toList_inj.mp).mp split.symm
  rw [words_eq_texts, words_eq_texts] at texts
  have built := build_code_alone a
  rw [Word.Clear.eq_of_texts clear others texts, build_code_alone] at built
  exact (List.singleton_inj.mp (Option.some.inj built)).symm

theorem clear_of_parsed {source : String} (parsed : ofTokens (Scan.ofText source).tokens = .ok e)
    (unambiguous : e.Unambiguous) : ∀ w ∈ e.code, w.Clear := by
  obtain ⟨-, -, -, lexemes⟩ := Scan.tokens_beforeFinish source
  have spells := ofTokens_eq_ok_iff.mp parsed
  exact spells.reads.clear spells.bound lexemes unambiguous

/-- Parsed trees without strings and without a minus in front of an operand are told by their texts in reverse Polish
order: if these are the same, so are the trees without groups and lines, and the values or errors but for the lines. -/
theorem reversePolish_determines {source other : String} {a b : Expr}
    (parsed : ofTokens (Scan.ofText source).tokens = .ok a)
    (parsedOther : ofTokens (Scan.ofText other).tokens = .ok b) (unambiguous : a.Unambiguous)
    (unambiguousOther : b.Unambiguous)
    (same : Layout.reversePolish.render a = Layout.reversePolish.render b) :
    a.bare.unlined = b.bare.unlined ∧
      a.evaluate.mapError RuntimeError.unlined = b.evaluate.mapError RuntimeError.unlined := by
  have tree := bare_of_render (clear_of_parsed parsed unambiguous) (clear_of_parsed parsedOther unambiguousOther) same
  have values := value_of_unlined tree
  rw [value_bare, value_bare, ← evaluate_eq_value, ← evaluate_eq_value] at values
  exact ⟨tree, values⟩

def sumTimesTruth : Expr :=
  .binary
    (.group (.binary (.literal (.number (.ofDecimal ⟨1, 0⟩))) ⟨.mark .plus, "+", 1⟩
      (.literal (.number (.ofDecimal ⟨2, 0⟩)))))
    ⟨.mark .star, "*", 1⟩ (.unary ⟨.mark .bang, "!", 1⟩ (.literal .nil))

def groupedSumTimesTruth : Expr :=
  .binary
    (.group (.binary (.group (.literal (.number (.ofDecimal ⟨1, 0⟩)))) ⟨.mark .plus, "+", 2⟩
      (.literal (.number (.ofDecimal ⟨2, 0⟩)))))
    ⟨.mark .star, "*", 3⟩ (.group (.unary ⟨.mark .bang, "!", 3⟩ (.literal .nil)))

theorem sumTimesTruth_determined :
    ofTokens (Scan.ofText "(1 + 2) * !nil").tokens = .ok sumTimesTruth ∧
      ofTokens (Scan.ofText "\n((1.0) + 2)\n* (!nil)").tokens = .ok groupedSumTimesTruth ∧
      sumTimesTruth.Unambiguous ∧ groupedSumTimesTruth.Unambiguous ∧
      Layout.reversePolish.render sumTimesTruth = "1 2 + nil ! *" ∧
      Layout.reversePolish.render groupedSumTimesTruth = "1 2 + nil ! *" ∧
      sumTimesTruth.bare.unlined = groupedSumTimesTruth.bare.unlined ∧
      sumTimesTruth.evaluate.mapError RuntimeError.unlined =
        groupedSumTimesTruth.evaluate.mapError RuntimeError.unlined := by
  have seen : (Run.ofText id "(1 + 2) * !nil").seen = some sumTimesTruth := by decide +kernel
  have seenOther : (Run.ofText id "\n((1.0) + 2)\n* (!nil)").seen = some groupedSumTimesTruth := by decide +kernel
  obtain ⟨-, _, parsed, rfl⟩ := Run.seen_eq_some_iff.mp seen
  obtain ⟨-, _, parsedOther, rfl⟩ := Run.seen_eq_some_iff.mp seenOther
  have unambiguous : sumTimesTruth.Unambiguous :=
    ⟨⟨True.intro, True.intro⟩, by decide, True.intro⟩
  have unambiguousOther : groupedSumTimesTruth.Unambiguous :=
    ⟨⟨True.intro, True.intro⟩, by decide, True.intro⟩
  have text : Layout.reversePolish.render sumTimesTruth = "1 2 + nil ! *" := by decide +kernel
  have textOther : Layout.reversePolish.render groupedSumTimesTruth = "1 2 + nil ! *" := by decide +kernel
  exact ⟨parsed, parsedOther, unambiguous, unambiguousOther, text, textOther,
    reversePolish_determines parsed parsedOther unambiguous unambiguousOther (text.trans textOther.symm)⟩

end Expr

end Reckon
