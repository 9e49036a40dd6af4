import Mathlib.Control.Monad.Basic
import Reckon.Proofs.Failures
import Reckon.Proofs.RoundTrip
import Reckon.Run

namespace Reckon

def RuntimeError.unlined (err : RuntimeError) : RuntimeError := { err with line := 0 }

namespace Expr

theorem unlined_eq_reworded (e : Expr) : e.unlined = e.reworded Token.unlined := by
  induction e with
  | literal v => rfl
  | group inner ih => rw [unlined, ih, reworded]
  | unary operator operand ih => rw [unlined, ih, reworded]
  | binary left operator right ihLeft ihRight => rw [unlined, ihLeft, ihRight, reworded]

theorem value_unlined (e : Expr) : e.unlined.value = e.value.mapError RuntimeError.unlined := by
  have again := e.outcome_reworded .values (f := Token.unlined) fun _ => rfl
  rw [unlined_eq_reworded, value_eq_outcome, value_eq_outcome, again]
  cases e.outcome .values <;> rfl

theorem value_of_unlined {e again : Expr} (tree : again.unlined = e.unlined) :
    again.value.mapError RuntimeError.unlined = e.value.mapError RuntimeError.unlined := by
  rw [← value_unlined, tree, value_unlined]

def isFinite : Expr → Bool
  | literal (.number x) => x.isFinite
  | literal _ => true
  | group inner => inner.isFinite
  | unary _ operand => operand.isFinite
  | binary left _ right => left.isFinite && right.isFinite

end Expr

theorem Token.isFinite_of_mark {t : Token} {m : Mark} (symbol : t.symbol = .mark m) : t.isFinite = true :=
  isFinite_of_ne (by simp [symbol])

theorem Token.mark_of_isPrefixOperator {t : Token} (stands : t.isPrefixOperator = true) :
    ∃ m, t.symbol = .mark m := by
  rcases isPrefixOperator_iff.mp stands with symbol | symbol
  · exact ⟨_, symbol⟩
  · exact ⟨_, symbol⟩

theorem Token.rescanned_of_not_isFinite {t : Token} (infinite : t.isFinite = false) :
    t.rescanned.1 = .identifier := by
  unfold isFinite at infinite
  unfold rescanned
  split
  · rename_i x same
    rw [same] at infinite
    simp [show x.isFinite = false from infinite]
  · rename_i other
    split at infinite
    · exact absurd ‹_› (other _)
    · cases infinite

theorem Scan.beforeFinish_of_scans {source : String} {pairs : List (Symbol × String)}
    (scans : Scans source.toList (pairs.map .ok ++ [.ok (.finish, "")])) :
    (ofText source).errors = [] ∧ (beforeFinish (ofText source).tokens).map Token.spelled = pairs := by
  have whole : Scans source.toList ((pairs ++ [(Symbol.finish, "")]).map .ok) := by rwa [List.map_append]
  obtain ⟨errors, tokens⟩ := ofText_of_scans whole
  obtain ⟨last, split, ended, -⟩ := tokens_beforeFinish source
  rw [split, List.map_append, List.map_singleton, ended] at tokens
  exact ⟨errors, List.append_cancel_right tokens⟩

namespace Expr

theorem Reads.isFinite_eq {e : Expr} {tokens : List Token} (reads : e.Reads tokens) (bound : e.Bound) :
    tokens.all Token.isFinite = e.isFinite := by
  induction reads with
  | @literal v token same =>
    rw [List.all_cons, List.all_nil, Bool.and_true]
    unfold Token.isFinite
    rw [same]
    cases v with
    | boolean b => cases b <;> rfl
    | _ => rfl
  | group opens closes _ ih =>
    simp [Token.isFinite_of_mark opens, Token.isFinite_of_mark closes, ih bound, isFinite]
  | @unary operator operand tokens _ ih =>
    obtain ⟨m, symbol⟩ := Token.mark_of_isPrefixOperator bound.1
    simp [Token.isFinite_of_mark symbol, ih bound.2.2, isFinite]
  | binary _ _ ihLeft ihRight =>
    obtain ⟨q, found, -, -, boundLeft, boundRight⟩ := bound
    obtain ⟨m, -, symbol⟩ := Token.precedence?_eq_some_iff.mp found
    simp [Token.isFinite_of_mark symbol, ihLeft boundLeft, ihRight boundRight, isFinite]

theorem Reads.not_identifier {e : Expr} {tokens : List Token} (reads : e.Reads tokens) (bound : e.Bound) :
    ∀ t ∈ tokens, t.symbol ≠ .identifier := by
  induction reads with
  | @literal v token same =>
    intro t member
    rw [List.mem_singleton.mp member, same]
    cases v with
    | boolean b => cases b <;> exact Symbol.noConfusion
    | _ => exact Symbol.noConfusion
  | group opens closes _ ih =>
    simp only [List.cons_append, List.forall_mem_cons, List.forall_mem_append]
    exact ⟨by simp [opens], ih bound, by simp [closes]⟩
  | @unary operator operand tokens _ ih =>
    obtain ⟨m, symbol⟩ := Token.mark_of_isPrefixOperator bound.1
    rw [List.forall_mem_cons]
    exact ⟨by simp [symbol], ih bound.2.2⟩
  | binary _ _ ihLeft ihRight =>
    obtain ⟨q, found, -, -, boundLeft, boundRight⟩ := bound
    obtain ⟨m, -, symbol⟩ := Token.precedence?_eq_some_iff.mp found
    rw [List.forall_mem_append, List.forall_mem_cons]
    exact ⟨ihLeft boundLeft, by simp [symbol], ihRight boundRight⟩

variable {e : Expr} {tokens : List Token} {source : String}

theorem Reads.found_again (reads : e.Reads tokens) (bound : e.Bound)
    (lexemes : ∀ t ∈ tokens, Lexeme t.lexeme.toList t.symbol) (text : source.toList = e.spelling) :
    (Scan.ofText source).errors = [] ∧
      (beforeFinish (Scan.ofText source).tokens).map Token.spelled = tokens.map Token.rescanned := by
  have whole := reads.rescans bound lexemes follows_nil .nil
  apply Scan.beforeFinish_of_scans
  rw [text]
  simpa [Function.comp_def] using whole

theorem Spells.read_back (spells : e.Spells Parser.maxDepth .equality tokens) (written : ∀ t ∈ tokens, t.Written)
    (text : source.toList = e.spelling) :
    (Scan.ofText source).errors = [] ∧
      ∃ again, ofTokens (Scan.ofText source).tokens = .ok again ∧ again.unlined = e.unlined := by
  have printed : tokens.map Token.rescanned = tokens.map Token.printed :=
    List.map_congr_left fun t member => Token.rescanned_of_isFinite (written t member).finite
  obtain ⟨errors, found⟩ := spells.reads.found_again spells.bound (fun t member => (written t member).lexeme) text
  obtain ⟨again, reads, tree⟩ := spells.reads.reread spells.bound (found.trans printed)
  exact ⟨errors, again, ofTokens_eq_ok_iff.mpr (spells.of_unlined reads tree), tree⟩

-- The word that stands for an infinite number is in no expression.
theorem Reads.rejected_again (reads : e.Reads tokens) (bound : e.Bound)
    (lexemes : ∀ t ∈ tokens, Lexeme t.lexeme.toList t.symbol) (text : source.toList = e.spelling)
    (infinite : e.isFinite = false) :
    (Scan.ofText source).errors = [] ∧ ∃ err, ofTokens (Scan.ofText source).tokens = .error err := by
  obtain ⟨errors, found⟩ := reads.found_again bound lexemes text
  refine ⟨errors, ?_⟩
  rw [← reads.isFinite_eq bound, List.all_eq_false] at infinite
  obtain ⟨t, member, endless⟩ := infinite
  have among : t.rescanned ∈ tokens.map Token.rescanned := List.mem_map_of_mem member
  rw [← found] at among
  obtain ⟨word, standing, same⟩ := List.mem_map.mp among
  have identifier : word.symbol = .identifier :=
    (congrArg Prod.fst same).trans (Token.rescanned_of_not_isFinite (Bool.not_eq_true _ ▸ endless))
  cases parsed : ofTokens (Scan.ofText source).tokens with
  | error err => exact ⟨err, rfl⟩
  | ok again =>
    have spells := ofTokens_eq_ok_iff.mp parsed
    exact absurd identifier (spells.reads.not_identifier spells.bound word standing)

end Expr

namespace Run

variable {α : Type} {observe : Expr → α} {source : String}

theorem seen_eq_some_iff {a : α} : (ofText observe source).seen = some a ↔
    (Scan.ofText source).errors = [] ∧ ∃ e, Expr.ofTokens (Scan.ofText source).tokens = .ok e ∧ observe e = a := by
  cases errors : (Scan.ofText source).errors with
  | cons err more => simp [ofText, errors]
  | nil => cases parsed : Expr.ofTokens (Scan.ofText source).tokens <;> simp [ofText, errors, parsed]

theorem result_eq_ok_iff {v : Value} : (ofText observe source).result = .ok v ↔
    (Scan.ofText source).errors = [] ∧
      ∃ e, Expr.ofTokens (Scan.ofText source).tokens = .ok e ∧ e.value = .ok v := by
  cases errors : (Scan.ofText source).errors with
  | cons err more => simp [ofText, errors]
  | nil =>
    cases parsed : Expr.ofTokens (Scan.ofText source).tokens with
    | error err => simp [ofText, errors, parsed]
    | ok e => simp [ofText, errors, parsed, mapError_eq_ok_iff, Expr.evaluate_eq_value]

theorem ofText_of_rejected {err : SyntaxError} (errors : (Scan.ofText source).errors = [])
    (rejected : Expr.ofTokens (Scan.ofText source).tokens = .error err) :
    ofText observe source = ⟨none, .error [err.diagnostic]⟩ := by
  simp only [ofText, errors, rejected]

/-- The source of the tree of a run runs to the same value if all numbers of the tree are finite, and else is rejected
by the parser. -/
theorem source_runs_again {e : Expr} {v : Value} (seen : (ofText id source).seen = some e)
    (ran : (ofText id source).result = .ok v) :
    (e.isFinite = true → (ofText id (Layout.source.render e)).result = .ok v) ∧
      (e.isFinite = false →
        ∃ err : SyntaxError, ofText id (Layout.source.render e) = ⟨none, .error [err.diagnostic]⟩) := by
  obtain ⟨-, e, parsed, rfl⟩ := seen_eq_some_iff.mp seen
  obtain ⟨-, other, same, value⟩ := result_eq_ok_iff.mp ran
  obtain rfl := Except.ok.inj (parsed.symm.trans same)
  have spells := Expr.ofTokens_eq_ok_iff.mp parsed
  have text := Expr.toList_render_source spells.bound
  obtain ⟨-, -, -, lexemes⟩ := Scan.tokens_beforeFinish source
  constructor
  · intro finite
    rw [id, ← spells.reads.isFinite_eq spells.bound, List.all_eq_true] at finite
    obtain ⟨errors, again, parsedAgain, tree⟩ :=
      spells.read_back (fun t member => ⟨lexemes t member, finite t member⟩) text
    have values := Expr.value_of_unlined tree
    rw [value] at values
    exact result_eq_ok_iff.mpr ⟨errors, again, parsedAgain, mapError_eq_ok_iff.mp values⟩
  · intro infinite
    obtain ⟨errors, err, rejected⟩ := spells.reads.rejected_again spells.bound lexemes text infinite
    exact ⟨err, ofText_of_rejected errors rejected⟩

theorem ofText_literal {v : Value} (lexeme : Lexeme source.toList v.symbol) :
    ofText observe source = ⟨some (observe (.literal v)), .ok v⟩ := by
  have scans : Scans source.toList ([(v.symbol, source)].map .ok ++ [.ok (.finish, "")]) := by
    simpa using Scans.nil.token lexeme v.symbol.apart_nil
  obtain ⟨errors, found⟩ := Scan.beforeFinish_of_scans scans
  obtain ⟨token, alone, spelled⟩ := List.map_eq_singleton_iff.mp found
  have spells : (Expr.literal v).Spells Parser.maxDepth .equality (beforeFinish (Scan.ofText source).tokens) := by
    rw [alone]
    exact (Expr.Spells.literal (congrArg Prod.fst spelled)).loosen (by decide)
  simp only [ofText, errors, Expr.ofTokens_eq_ok_iff.mpr spells, Expr.evaluate_eq_value]
  rfl

theorem ofText_digits {digits : List Char} {x : Number} (present : digits ≠ [])
    (all : ∀ c ∈ digits, c.isDigit = true) (value : .ofDecimal (.ofDigits digits []) = x) :
    ofText observe (String.ofList digits) = ⟨some (observe (.literal (.number x))), .ok (.number x)⟩ := by
  apply ofText_literal
  have lexeme := Lexeme.whole present all
  rwa [String.toList_ofList, Value.symbol, ← value]

def nines : String := String.ofList (List.replicate 400 '9')

theorem nines_rejected_again :
    ofText id nines = ⟨some (.literal (.number (.signed false .infinity))), .ok (.number (.signed false .infinity))⟩ ∧
      Layout.source.render (.literal (.number (.signed false .infinity))) = "inf" ∧
      (ofText id (Layout.source.render (.literal (.number (.signed false .infinity))))).result =
        .error [⟨.syntactic, 1, .lexeme "inf", "Expecting an expression."⟩] := by
  refine ⟨?_, by decide +kernel, by decide +kernel⟩
  apply ofText_digits
  · decide +kernel
  · intro c member
    rw [List.eq_of_mem_replicate member]
    rfl
  · decide +kernel

def difference : Expr :=
  .binary (.literal (.number (.ofDecimal ⟨1, 0⟩))) ⟨.mark .minus, "-", 1⟩
    (.unary ⟨.mark .minus, "-", 1⟩ (.literal (.number (.ofDecimal ⟨25, 1⟩))))

theorem difference_runs_again :
    (ofText id "1 - -2.50 // b").seen = some difference ∧
      (ofText id "1 - -2.50 // b").result = .ok (.number (.ofDecimal ⟨35, 1⟩)) ∧
      (ofText id (Layout.source.render difference)).result = .ok (.number (.ofDecimal ⟨35, 1⟩)) := by
  have seen : (ofText id "1 - -2.50 // b").seen = some difference := by decide +kernel
  have ran : (ofText id "1 - -2.50 // b").result = .ok (.number (.ofDecimal ⟨35, 1⟩)) := by decide +kernel
  exact ⟨seen, ran, (source_runs_again seen ran).1 (by decide +kernel)⟩

end Run

end Reckon
