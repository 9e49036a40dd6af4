import Reckon.Proofs.Numerals
import Reckon.Proofs.Printing
import Reckon.Proofs.Recognition
import Reckon.Proofs.Scanning

namespace Reckon

def Number.isFinite : Number → Bool
  | nan => false
  | signed _ a => !a.isInfinite

theorem Number.lexeme_text_of_isInfinite {a : Magnitude} (infinite : a.isInfinite = true) :
    Lexeme (signed false a).text.toList .identifier := by
  have written : (signed false a).text.toList = ['i', 'n', 'f'] := by
    simp [text, infinite]
  rw [written]
  refine .identifier (by decide) (List.all_eq_true.mp (by decide)) ?_
  intro k
  cases k <;> decide

theorem Value.symbol_ne_mark (v : Value) (m : Mark) : v.symbol ≠ .mark m := by
  cases v with
  | boolean b => cases b <;> exact Symbol.noConfusion
  | _ => exact Symbol.noConfusion

namespace Token

def isFinite (t : Token) : Bool :=
  match t.symbol with
  | .number x => x.isFinite
  | _ => true

structure Written (t : Token) : Prop where
  lexeme : Lexeme t.lexeme.toList t.symbol
  finite : t.isFinite = true

def printed (t : Token) : Symbol × String :=
  match t.symbol with
  | .number x => (.number x, x.text)
  | s => (s, t.lexeme)

theorem printed_fst (t : Token) : t.printed.1 = t.symbol := by
  unfold printed
  split
  · rename_i x same
    exact same.symm
  · rfl

theorem printed_of_ne {t : Token} (other : ∀ x, t.symbol ≠ .number x) : t.printed = t.spelled := by
  unfold printed
  split
  · rename_i x same
    exact absurd same (other x)
  · rfl

theorem printed_of_mark {t : Token} {m : Mark} (symbol : t.symbol = .mark m) : t.printed = t.spelled := by
  apply printed_of_ne
  intro x number
  rw [symbol] at number
  cases number

def unlined (t : Token) : Token := { t with line := 0 }

theorem symbol_of_spelled {t u : Token} (same : u.spelled = t.printed) : u.symbol = t.symbol := by
  rw [← t.printed_fst, ← same, spelled]

theorem unlined_of_spelled {t u : Token} {m : Mark} (symbol : t.symbol = .mark m)
    (same : u.spelled = t.printed) : u.unlined = t.unlined := by
  rw [printed_of_mark symbol] at same
  obtain ⟨symbols, lexemes⟩ := Prod.mk.inj same
  rw [unlined, unlined, symbols, lexemes]

/-- A token without its line as a scan finds it where it is printed. The text of an infinite number is a word. -/
def rescanned (t : Token) : Symbol × String :=
  match t.symbol with
  | .number x => (if x.isFinite then .number x else .identifier, x.text)
  | s => (s, t.lexeme)

theorem rescanned_of_isFinite {t : Token} (finite : t.isFinite = true) : t.rescanned = t.printed := by
  unfold isFinite at finite
  unfold rescanned printed
  split
  · rename_i x same
    rw [same] at finite
    simp only [if_pos finite]
  · rfl

theorem isFinite_of_ne {t : Token} (other : ∀ x, t.symbol ≠ .number x) : t.isFinite = true := by
  unfold isFinite
  split
  · rename_i x same
    exact absurd same (other x)
  · rfl

theorem rescanned_of_ne {t : Token} (other : ∀ x, t.symbol ≠ .number x) : t.rescanned = t.spelled := by
  rw [rescanned_of_isFinite (isFinite_of_ne other), printed_of_ne other]

theorem rescanned_of_mark {t : Token} {m : Mark} (symbol : t.symbol = .mark m) : t.rescanned = t.spelled := by
  apply rescanned_of_ne
  intro x number
  rw [symbol] at number
  cases number

theorem lexeme_rescanned {t : Token} (lexeme : Lexeme t.lexeme.toList t.symbol) :
    Lexeme t.rescanned.2.toList t.rescanned.1 := by
  by_cases number : ∃ x, t.symbol = .number x
  · obtain ⟨x, same⟩ := number
    have value : ∃ d, x = .ofDecimal d := by
      rw [same] at lexeme
      generalize t.lexeme.toList = text at lexeme
      cases lexeme with
      | whole => exact ⟨_, rfl⟩
      | fraction => exact ⟨_, rfl⟩
    obtain ⟨d, rfl⟩ := value
    simp only [rescanned, same, Number.ofDecimal, Number.isFinite, Bool.not_eq_true']
    split
    · rename_i finite
      exact Number.lexeme_text finite
    · rename_i infinite
      exact Number.lexeme_text_of_isInfinite (Bool.not_eq_false _ ▸ infinite)
  · rw [rescanned_of_ne fun x same => number ⟨x, same⟩]
    exact lexeme

theorem symbol_of_rescanned_mark {t : Token} {m : Mark} (mark : t.rescanned.1 = .mark m) : t.symbol = .mark m := by
  unfold rescanned at mark
  split at mark
  · dsimp only at mark
    split at mark <;> cases mark
  · exact mark

theorem mark_text {t : Token} {m : Mark} (lexeme : Lexeme t.lexeme.toList t.symbol) (symbol : t.symbol = .mark m) :
    t.lexeme.toList = m.text.toList := by
  rw [symbol] at lexeme
  exact lexeme.eq_mark

end Token

theorem Layout.quoted_eq_rescanned {t : Token} {v : Value} (same : t.symbol = v.symbol)
    (lexeme : Lexeme t.lexeme.toList t.symbol) : (quoted v).toList = t.rescanned.2.toList := by
  cases v with
  | number x =>
    simp only [Value.symbol] at same
    simp only [Token.rescanned, same]
    rfl
  | string s =>
    rw [Token.rescanned_of_ne (by simp [same, Value.symbol]), Token.spelled]
    rw [same] at lexeme
    rw [lexeme.eq_string, quoted]
    simp
  | boolean b =>
    rw [Token.rescanned_of_ne (by cases b <;> simp [same, Value.symbol]), Token.spelled]
    rw [same] at lexeme
    cases b <;> exact lexeme.eq_keyword.symm
  | nil =>
    rw [Token.rescanned_of_ne (by simp [same, Value.symbol]), Token.spelled]
    rw [same] at lexeme
    exact lexeme.eq_keyword.symm

namespace Scans

variable {rest : List Char} {items : List Content} {t : Token}

theorem rescanned (scans : Scans rest items) (lexeme : Lexeme t.lexeme.toList t.symbol)
    (apart : t.rescanned.1.Apart rest) : Scans (t.rescanned.2.toList ++ rest) (.ok t.rescanned :: items) := by
  have found := token (Token.lexeme_rescanned lexeme) apart scans
  rw [String.ofList_toList] at found
  exact found

theorem mark {m : Mark} (scans : Scans rest items) (symbol : t.symbol = .mark m)
    (lexeme : Lexeme t.lexeme.toList t.symbol) (apart : (Symbol.mark m).Apart rest) :
    Scans (t.lexeme.toList ++ rest) (.ok t.rescanned :: items) := by
  have same := Token.rescanned_of_mark symbol
  have found := scans.rescanned lexeme (by rwa [same, Token.spelled, symbol])
  rw [same] at found ⊢
  exact found

end Scans

/-- What can stand behind an expression in a source: nothing, a space or a closing parenthesis. -/
def Follows (rest : List Char) : Prop := ∀ c after, rest = c :: after → c = ' ' ∨ c = ')'

theorem Follows.head?_ne {rest : List Char} (follows : Follows rest) {c : Char} (other : c ≠ ' ' ∧ c ≠ ')') :
    rest.head? ≠ some c := by
  intro same
  obtain ⟨after, split⟩ := List.head?_eq_some_iff.mp same
  rcases follows c after split with rfl | rfl
  · exact other.1 rfl
  · exact other.2 rfl

theorem Follows.apart {rest : List Char} (follows : Follows rest) (s : Symbol) : s.Apart rest := by
  cases s with
  | mark m => cases m <;> first | exact True.intro | exact follows.head?_ne (by decide)
  | keyword k =>
    intro c after same
    rcases follows c after same with rfl | rfl <;> decide
  | identifier =>
    intro c after same
    rcases follows c after same with rfl | rfl <;> decide
  | string text => exact True.intro
  | number x =>
    rintro c after (same | same)
    · rcases follows c after same with rfl | rfl <;> decide
    · rcases follows '.' _ same with point | point <;> cases point
  | finish => exact True.intro

theorem follows_nil : Follows [] := nofun

theorem follows_space (rest : List Char) : Follows (' ' :: rest) := by
  intro c after same
  cases same
  exact .inl rfl

theorem follows_close (rest : List Char) : Follows (')' :: rest) := by
  intro c after same
  cases same
  exact .inr rfl

namespace Expr

theorem spelling_head {e : Expr} {tokens : List Token} (reads : e.Reads tokens) (bound : e.Bound)
    (lexemes : ∀ t ∈ tokens, Lexeme t.lexeme.toList t.symbol) : ∃ c cs, e.spelling = c :: cs ∧ c ≠ '=' := by
  induction reads with
  | @literal v token same =>
    have valid := lexemes token List.mem_cons_self
    have lexeme := Token.lexeme_rescanned valid
    rw [← Layout.quoted_eq_rescanned same valid] at lexeme
    obtain ⟨c, cs, spelled⟩ := List.exists_cons_of_ne_nil lexeme.ne_nil
    refine ⟨c, cs, spelled, ?_⟩
    rintro rfl
    rw [spelled] at lexeme
    obtain ⟨m, mark⟩ := lexeme.mark_of_equal
    exact v.symbol_ne_mark m (same ▸ Token.symbol_of_rescanned_mark mark)
  | group => exact ⟨_, _, rfl, by decide⟩
  | @unary operator operand tokens _ _ =>
    have valid := lexemes operator List.mem_cons_self
    rcases Token.isPrefixOperator_iff.mp bound.1 with symbol | symbol
    · exact ⟨'!', operand.spelling, by rw [spelling, Token.mark_text valid symbol]; rfl, by decide⟩
    · exact ⟨'-', operand.spelling, by rw [spelling, Token.mark_text valid symbol]; rfl, by decide⟩
  | binary _ _ ihLeft _ =>
    obtain ⟨q, -, -, -, boundLeft, -⟩ := bound
    obtain ⟨c, cs, spelled, other⟩ := ihLeft boundLeft fun t member => lexemes t (List.mem_append_left _ member)
    exact ⟨c, _, by rw [spelling, spelled, List.cons_append], other⟩

theorem Reads.rescans {e : Expr} {tokens : List Token} (reads : e.Reads tokens) (bound : e.Bound)
    (lexemes : ∀ t ∈ tokens, Lexeme t.lexeme.toList t.symbol) {rest : List Char} {items : List Content}
    (follows : Follows rest) (scans : Scans rest items) :
    Scans (e.spelling ++ rest) (tokens.map (fun t => .ok t.rescanned) ++ items) := by
  induction reads generalizing rest items with
  | @literal v token same =>
    have valid := lexemes token List.mem_cons_self
    rw [spelling, Layout.quoted_eq_rescanned same valid]
    exact scans.rescanned valid (follows.apart _)
  | @group inner opening closing tokens opens closes _ ih =>
    have lexemeOpening := lexemes opening (by simp)
    have lexemeClosing := lexemes closing (by simp)
    have last := scans.mark closes lexemeClosing True.intro
    rw [Token.mark_text lexemeClosing closes] at last
    have middle := ih bound (fun t member => lexemes t (by simp [member])) (follows_close rest) last
    have first := middle.mark opens lexemeOpening True.intro
    rw [Token.mark_text lexemeOpening opens] at first
    simpa [spelling, Mark.text] using first
  | @unary operator operand tokens reads ih =>
    have valid := lexemes operator List.mem_cons_self
    have others : ∀ t ∈ tokens, Lexeme t.lexeme.toList t.symbol := by
      intro t member
      exact lexemes t (List.mem_cons_of_mem _ member)
    obtain ⟨c, cs, spelled, other⟩ := spelling_head reads bound.2.2 others
    -- The operand follows at once and must not lengthen the operator.
    obtain ⟨m, symbol, apart⟩ :
        ∃ m, operator.symbol = .mark m ∧ (Symbol.mark m).Apart (operand.spelling ++ rest) := by
      rcases Token.isPrefixOperator_iff.mp bound.1 with symbol | symbol
      · refine ⟨.bang, symbol, ?_⟩
        simpa [Symbol.Apart, spelled] using other
      · exact ⟨.minus, symbol, True.intro⟩
    have first := (ih bound.2.2 others follows scans).mark symbol valid apart
    rwa [spelling, List.append_assoc]
  | @binary left right operator before after _ _ ihLeft ihRight =>
    obtain ⟨q, found, -, -, boundLeft, boundRight⟩ := bound
    obtain ⟨m, -, symbol⟩ := Token.precedence?_eq_some_iff.mp found
    have last := ihRight boundRight (fun t member => lexemes t (by simp [member])) follows scans
    have spaced := follows_space (right.spelling ++ rest)
    have middle := last.space.mark symbol (lexemes operator (by simp)) (spaced.apart _)
    have first := ihLeft boundLeft (fun t member => lexemes t (by simp [member])) (follows_space _) middle.space
    simpa [spelling] using first

theorem Reads.scans {e : Expr} {tokens : List Token} (reads : e.Reads tokens) (bound : e.Bound)
    (written : ∀ t ∈ tokens, t.Written) {rest : List Char} {items : List Content}
    (follows : Follows rest) (scans : Scans rest items) :
    Scans (e.spelling ++ rest) (tokens.map (fun t => .ok t.printed) ++ items) := by
  have same : tokens.map (fun t => (.ok t.printed : Content)) = tokens.map fun t => .ok t.rescanned :=
    List.map_congr_left fun t member => congrArg _ (Token.rescanned_of_isFinite (written t member).finite).symm
  rw [same]
  exact reads.rescans bound (fun t member => (written t member).lexeme) follows scans

def unlined : Expr → Expr
  | literal v => literal v
  | group inner => group inner.unlined
  | unary operator operand => unary operator.unlined operand.unlined
  | binary left operator right => binary left.unlined operator.unlined right.unlined

theorem precedence_unlined (e : Expr) : e.unlined.precedence = e.precedence := by
  cases e <;> rfl

theorem nesting_unlined (e : Expr) : e.unlined.nesting = e.nesting := by
  induction e with
  | literal => rfl
  | group inner ih => exact congrArg (· + 1) ih
  | unary operator operand ih => exact congrArg (· + 1) ih
  | binary left operator right ihLeft ihRight => rw [unlined, nesting, ihLeft, ihRight, nesting]

theorem bound_unlined (e : Expr) : e.unlined.Bound ↔ e.Bound := by
  induction e with
  | literal => exact Iff.rfl
  | group inner ih => exact ih
  | unary operator operand ih =>
    simp only [unlined, Bound, precedence_unlined, ih]
    exact Iff.rfl
  | binary left operator right ihLeft ihRight =>
    simp only [unlined, Bound, precedence_unlined, ihLeft, ihRight]
    exact Iff.rfl

theorem spelling_unlined (e : Expr) : e.unlined.spelling = e.spelling := by
  induction e with
  | literal => rfl
  | group inner ih => rw [unlined, spelling, ih, spelling]
  | unary operator operand ih =>
    rw [unlined, spelling, ih, spelling]
    rfl
  | binary left operator right ihLeft ihRight =>
    rw [unlined, spelling, ihLeft, ihRight, spelling]
    rfl

theorem Reads.reread {e : Expr} {tokens others : List Token} (reads : e.Reads tokens) (bound : e.Bound)
    (same : others.map Token.spelled = tokens.map Token.printed) :
    ∃ again : Expr, again.Reads others ∧ again.unlined = e.unlined := by
  induction reads generalizing others with
  | @literal v token symbol =>
    obtain ⟨other, rfl, spelled⟩ := List.map_eq_singleton_iff.mp same
    exact ⟨.literal v, .literal ((Token.symbol_of_spelled spelled).trans symbol), rfl⟩
  | @group inner opening closing tokens opens closes _ ih =>
    rw [List.cons_append, List.map_cons, List.map_append] at same
    obtain ⟨first, rest, rfl, spelledFirst, more⟩ := List.map_eq_cons_iff.mp same
    obtain ⟨middle, lasts, rfl, spelled, ended⟩ := List.map_eq_append_iff.mp more
    obtain ⟨last, rfl, spelledLast⟩ := List.map_eq_singleton_iff.mp ended
    obtain ⟨again, reads, tree⟩ := ih bound spelled
    refine ⟨.group again, .group ?_ ?_ reads, congrArg Expr.group tree⟩
    · exact (Token.symbol_of_spelled spelledFirst).trans opens
    · exact (Token.symbol_of_spelled spelledLast).trans closes
  | @unary operator operand tokens _ ih =>
    obtain ⟨first, rest, rfl, spelledFirst, spelled⟩ := List.map_eq_cons_iff.mp same
    obtain ⟨again, reads, tree⟩ := ih bound.2.2 spelled
    have lineless : first.unlined = operator.unlined := by
      rcases Token.isPrefixOperator_iff.mp bound.1 with symbol | symbol
      · exact Token.unlined_of_spelled symbol spelledFirst
      · exact Token.unlined_of_spelled symbol spelledFirst
    refine ⟨.unary first again, .unary reads, ?_⟩
    rw [unlined, unlined, tree, lineless]
  | @binary left right operator before after _ _ ihLeft ihRight =>
    obtain ⟨q, found, -, -, boundLeft, boundRight⟩ := bound
    rw [List.map_append, List.map_cons] at same
    obtain ⟨front, rest, rfl, spelledFront, more⟩ := List.map_eq_append_iff.mp same
    obtain ⟨middle, back, rfl, spelledMiddle, spelledBack⟩ := List.map_eq_cons_iff.mp more
    obtain ⟨againLeft, readsLeft, treeLeft⟩ := ihLeft boundLeft spelledFront
    obtain ⟨againRight, readsRight, treeRight⟩ := ihRight boundRight spelledBack
    obtain ⟨m, -, symbol⟩ := Token.precedence?_eq_some_iff.mp found
    refine ⟨.binary againLeft middle againRight, .binary readsLeft readsRight, ?_⟩
    rw [unlined, unlined, treeLeft, treeRight, Token.unlined_of_spelled symbol spelledMiddle]

theorem bound_of_unlined {e again : Expr} (bound : e.Bound) (tree : again.unlined = e.unlined) : again.Bound := by
  rw [← bound_unlined, tree, bound_unlined]
  exact bound

theorem Spells.of_unlined {depth : Nat} {q : Precedence} {e again : Expr} {tokens others : List Token}
    (spells : e.Spells depth q tokens) (reads : again.Reads others) (tree : again.unlined = e.unlined) :
    again.Spells depth q others where
  reads := reads
  bound := bound_of_unlined spells.bound tree
  tight := by
    rw [← precedence_unlined, tree, precedence_unlined]
    exact spells.tight
  shallow := by
    rw [← nesting_unlined, tree, nesting_unlined]
    exact spells.shallow

theorem render_source_of_unlined {e again : Expr} (bound : e.Bound) (tree : again.unlined = e.unlined) :
    Layout.source.render again = Layout.source.render e := by
  have boundAgain := bound_of_unlined bound tree
  rw [← String.toList_inj, toList_render_source boundAgain, toList_render_source bound, ← spelling_unlined, tree,
    spelling_unlined]

end Expr

theorem Scan.tokens_beforeFinish (source : String) : ∃ last,
    (ofText source).tokens = beforeFinish (ofText source).tokens ++ [last] ∧ last.spelled = (.finish, "") ∧
      ∀ t ∈ beforeFinish (ofText source).tokens, Lexeme t.lexeme.toList t.symbol := by
  obtain ⟨front, last, split, ended, lexemes⟩ := tokens_ends source
  have finish : last.isFinish = true := by
    rw [Token.isFinish, beq_iff_eq]
    exact congrArg Prod.fst ended
  have going : ∀ t ∈ front, (!t.isFinish) = true := by
    intro t member
    rw [Token.isFinish, Bool.not_eq_true', beq_eq_false_iff_ne]
    exact (lexemes t member).ne_finish
  have before : beforeFinish (ofText source).tokens = front := by
    rw [split, beforeFinish, List.takeWhile_append_of_pos going, List.takeWhile_cons_of_neg (by simp [finish]),
      List.append_nil]
  rw [before]
  exact ⟨last, split, ended, lexemes⟩

namespace Expr

/-- Scanning and parsing the source of a parsed tree, whose numbers are all finite, gives the tokens it was parsed
from with numbers in their own text, then the same tree up to lines, and so the same source. -/
theorem source_reads_back {source : String} {e : Expr} (parsed : ofTokens (Scan.ofText source).tokens = .ok e)
    (finite : ∀ t ∈ (Scan.ofText source).tokens, t.isFinite = true) :
    (Scan.ofText (Layout.source.render e)).errors = [] ∧
      (Scan.ofText (Layout.source.render e)).tokens.map Token.spelled =
        (Scan.ofText source).tokens.map Token.printed ∧
      ∃ again, ofTokens (Scan.ofText (Layout.source.render e)).tokens = .ok again ∧
        again.unlined = e.unlined ∧ Layout.source.render again = Layout.source.render e := by
  obtain ⟨last, split, ended, lexemes⟩ := Scan.tokens_beforeFinish source
  have spells := ofTokens_eq_ok_iff.mp parsed
  have written : ∀ t ∈ beforeFinish (Scan.ofText source).tokens, t.Written := by
    intro t member
    exact ⟨lexemes t member, finite t (split ▸ List.mem_append_left _ member)⟩
  have printed : last.printed = (.finish, "") := by
    have symbol : last.symbol = .finish := congrArg Prod.fst ended
    rw [Token.printed_of_ne (by simp [symbol]), ended]
  have scans : Scans (Layout.source.render e).toList
      (((Scan.ofText source).tokens.map Token.printed).map .ok) := by
    have whole := spells.reads.scans spells.bound written follows_nil .nil
    rw [split, toList_render_source spells.bound]
    simpa [printed, Function.comp_def] using whole
  obtain ⟨errors, tokens⟩ := Scan.ofText_of_scans scans
  refine ⟨errors, tokens, ?_⟩
  obtain ⟨lastAgain, splitAgain, endedAgain, -⟩ := Scan.tokens_beforeFinish (Layout.source.render e)
  have before : (beforeFinish (Scan.ofText (Layout.source.render e)).tokens).map Token.spelled =
      (beforeFinish (Scan.ofText source).tokens).map Token.printed := by
    rw [splitAgain, split, List.map_append, List.map_append, List.map_singleton, List.map_singleton, endedAgain,
      printed] at tokens
    exact List.append_cancel_right tokens
  obtain ⟨again, reads, tree⟩ := spells.reads.reread spells.bound before
  exact ⟨again, ofTokens_eq_ok_iff.mpr (spells.of_unlined reads tree), tree,
    render_source_of_unlined spells.bound tree⟩

/-- The tree of `!(1.50<-2)=="a"`, printed with fewer zeros and more spaces. -/
def comparison : Expr :=
  .binary
    (.unary ⟨.mark .bang, "!", 1⟩
      (.group (.binary (.literal (.number (.ofDecimal ⟨15, 1⟩))) ⟨.mark .less, "<", 1⟩
        (.unary ⟨.mark .minus, "-", 1⟩ (.literal (.number (.ofDecimal ⟨2, 0⟩)))))))
    ⟨.mark .equalEqual, "==", 1⟩ (.literal (.string "a"))

theorem comparison_reads_back :
    ofTokens (Scan.ofText "!(1.50<-2)==\"a\" // b").tokens = .ok comparison ∧
      (Scan.ofText (Layout.source.render comparison)).errors = [] ∧
      (Scan.ofText (Layout.source.render comparison)).tokens.map Token.spelled =
        (Scan.ofText "!(1.50<-2)==\"a\" // b").tokens.map Token.printed ∧
      ∃ again, ofTokens (Scan.ofText (Layout.source.render comparison)).tokens = .ok again ∧
        again.unlined = comparison.unlined ∧
        Layout.source.render again = Layout.source.render comparison := by
  have parsed : ofTokens (Scan.ofText "!(1.50<-2)==\"a\" // b").tokens = .ok comparison := by
    have found : (ofTokens (Scan.ofText "!(1.50<-2)==\"a\" // b").tokens).toOption = some comparison := by
      decide +kernel
    cases answer : ofTokens (Scan.ofText "!(1.50<-2)==\"a\" // b").tokens with
    | error e =>
      rw [answer] at found
      cases found
    | ok e =>
      rw [answer] at found
      exact congrArg Except.ok (Option.some.inj found)
  exact ⟨parsed, source_reads_back parsed (by decide +kernel)⟩

end Expr

end Reckon
