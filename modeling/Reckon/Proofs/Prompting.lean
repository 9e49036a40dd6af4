import Reckon.Proofs.Joining
import Reckon.Proofs.Operators
import Reckon.Proofs.Rewording
import Reckon.Proofs.Sessions

namespace Reckon

def Token.beforeNewline (t : Token) : Token := if t.isFinish then t.lowered 1 else t

def LexicalError.beforeNewline (e : LexicalError) : LexicalError :=
  if e.fault = .unterminatedString then { e with line := e.line + 1 } else e

/-- Whether a diagnostic is about the end of its text: what is missing there, or a string that is still open. -/
def Diagnostic.isAtEnd (d : Diagnostic) : Bool :=
  d.location == .atEnd || d.stage == .lexical && d.message == LexicalFault.unterminatedString.message

def Diagnostic.beforeNewline (d : Diagnostic) : Diagnostic := if d.isAtEnd then d.lowered 1 else d

def beforeNewline : Except LexicalError Token → Except LexicalError Token := revised .beforeNewline .beforeNewline

theorem Token.symbol_beforeNewline (t : Token) : t.beforeNewline.symbol = t.symbol := by
  unfold beforeNewline
  split <;> rfl

theorem Token.beforeNewline_of_going {t : Token} (going : t.isFinish = false) : t.beforeNewline = t := by
  simp [beforeNewline, going]

open Reading

theorem Reading.item_beforeNewline {c : Char} {rest : List Char} (line : Nat)
    (closed : (ofText c rest).result ≠ .error .unterminatedString) :
    beforeNewline ((ofText c rest).item line) = (ofText c rest).item line := by
  cases read : (ofText c rest).result with
  | ok symbol =>
    have going : Token.isFinish ⟨symbol, String.ofList (ofText c rest).taken, line⟩ = false := by
      rw [Token.isFinish, beq_eq_false_iff_ne]
      exact (Lexeme.of_ofText read).1.ne_finish
    simp only [item, read, beforeNewline, revised, Token.beforeNewline_of_going going]
  | error fault =>
    have other : fault ≠ .unterminatedString := by
      rintro rfl
      exact closed read
    simp [item, read, beforeNewline, revised, LexicalError.beforeNewline, other]

def itemLine : Except LexicalError Token → Nat
  | .ok t => t.line
  | .error e => e.line

theorem Reading.itemLine_item (r : Reading) (line : Nat) : itemLine (r.item line) = line := by
  unfold item
  cases r.result <;> rfl

namespace Yields

variable {text : List Char} {line : Nat} {items : List (Except LexicalError Token)}

theorem unterminated {gap body : List Char} (layout : Gap gap ('"' :: body)) (unclosed : '"' ∉ body) (line : Nat) :
    Yields (gap ++ '"' :: body) line
      [.error ⟨.unterminatedString, line + (gap ++ '"' :: body).count '\n'⟩,
        .ok (.finish (line + (gap ++ '"' :: body).count '\n'))] := by
  have read : ofText '"' (body ++ []) = ⟨'"' :: body, .error .unterminatedString⟩ := by
    rw [List.append_nil, ofText_quote, string_open unclosed]
  rw [← List.append_nil body] at layout
  have whole := Yields.item layout ⟨rfl, rfl⟩ (congrArg Reading.taken read)
    (.nil (line + (gap ++ '"' :: body).count '\n'))
  rw [read, List.append_nil] at whole
  exact whole

/-- An open string goes on over a line end, and everything else ends in front of it. -/
theorem newline (yields : Yields text line items) : Yields (text ++ ['\n']) line (items.map beforeNewline) := by
  induction yields with
  | @finish gap line layout =>
    have told : beforeNewline (.ok (.finish (line + gap.count '\n'))) =
        .ok (.finish (line + (gap ++ ['\n']).count '\n')) := by
      rw [List.count_append]
      rfl
    rw [List.map_singleton, told]
    exact .finish (layout.newline [])
  | @item gap cs left c line items layout clear taken more ih =>
    by_cases unclosed : (ofText c (cs ++ left)).result = .error .unterminatedString
    · obtain ⟨rfl, rfl, body⟩ := nothing_behind_unterminated taken unclosed
      obtain rfl := (nil _).unique more
      rw [List.append_nil] at layout unclosed ⊢
      have longer : Gap gap ('"' :: (cs ++ ['\n'])) := layout.before (by simp)
      have still := unterminated longer (by simpa using body) line
      have lines : line + (gap ++ '"' :: (cs ++ ['\n'])).count '\n' = line + (gap ++ '"' :: cs).count '\n' + 1 := by
        simp [List.count_append, Nat.add_assoc]
      rw [lines] at still
      have told (n : Nat) : (ofText '"' cs).item n = .error ⟨.unterminatedString, n⟩ := by
        simp only [Reading.item, unclosed]
      rw [List.append_assoc, told]
      exact still
    · have seam := resembles_newline left []
      have whole := item_resembling layout clear taken (fun fault => absurd fault unclosed) seam ih
      rw [List.map_cons, item_beforeNewline _ unclosed]
      simpa using whole

theorem line_eq (yields : Yields text line items) (flat : '\n' ∉ text) : ∀ item ∈ items, itemLine item = line := by
  induction yields with
  | finish =>
    rw [List.count_eq_zero_of_not_mem flat]
    simp [itemLine, Token.finish]
  | @item gap cs left c line items layout clear taken more ih =>
    have split : gap ++ c :: (cs ++ left) = gap ++ c :: cs ++ left := by simp
    rw [split, List.mem_append, not_or] at flat
    rw [List.count_eq_zero_of_not_mem flat.1, Nat.add_zero] at ih ⊢
    exact List.forall_mem_cons.mpr ⟨itemLine_item _ line, ih flat.2⟩

end Yields

theorem SyntaxError.beforeNewline_diagnostic (err : SyntaxError) :
    err.diagnostic.beforeNewline = diagnostic ⟨err.fault, err.token.beforeNewline⟩ := by
  obtain ⟨fault, symbol, lexeme, line⟩ := err
  cases finish : Token.isFinish ⟨symbol, lexeme, line⟩ with
  | true =>
    have finished : Token.isFinish ⟨symbol, lexeme, line + 1⟩ = true := finish
    simp [diagnostic, Diagnostic.beforeNewline, Diagnostic.isAtEnd, Token.beforeNewline, Token.location, finish,
      finished, Diagnostic.lowered, Token.lowered]
  | false =>
    simp [diagnostic, Diagnostic.beforeNewline, Diagnostic.isAtEnd, Token.beforeNewline, Token.location, finish]

theorem LexicalError.beforeNewline_diagnostic (e : LexicalError) :
    e.diagnostic.beforeNewline = e.beforeNewline.diagnostic := by
  obtain ⟨fault, line⟩ := e
  cases fault <;> rfl

namespace Scan

variable (source : String)

theorem items_newline : (Lexer.ofText (source ++ "\n")).items = (Lexer.ofText source).items.map beforeNewline := by
  apply Lexer.items_of_yields
  rw [String.toList_append]
  exact (Lexer.yields_ofText source).newline

theorem tokens_newline : (ofText (source ++ "\n")).tokens = (ofText source).tokens.map Token.beforeNewline := by
  rw [tokens_eq, items_newline, beforeNewline, filterMap_toOption_revised, tokens_eq]

theorem errors_newline :
    (ofText (source ++ "\n")).errors = (ofText source).errors.map LexicalError.beforeNewline := by
  rw [errors_eq, items_newline, beforeNewline, filterMap_error?_revised, errors_eq]

theorem diagnostics_newline :
    (ofText (source ++ "\n")).diagnostics = (ofText source).diagnostics.map Diagnostic.beforeNewline := by
  rw [diagnostics, errors_newline, diagnostics, List.map_map, List.map_map]
  exact List.map_congr_left fun e _ => e.beforeNewline_diagnostic.symm

variable {source} (typed : '\n' ∉ source.toList)
include typed

theorem line_of_mem_tokens {t : Token} (member : t ∈ (ofText source).tokens) : t.line = 1 := by
  rw [tokens_eq, List.mem_filterMap] at member
  obtain ⟨item, among, told⟩ := member
  cases item with
  | ok other =>
    cases told
    exact (Lexer.yields_ofText source).line_eq typed _ among
  | error e => cases told

theorem line_of_mem_errors {e : LexicalError} (member : e ∈ (ofText source).errors) : e.line = 1 :=
  (Lexer.yields_ofText source).line_eq typed _ (mem_errors_iff.mp member)

end Scan

theorem tokenAt_newline (source : String) (k : Nat) :
    tokenAt ((Scan.ofText source).tokens.map Token.beforeNewline) k =
      (tokenAt (Scan.ofText source).tokens k).beforeNewline := by
  obtain ⟨front, last, split, ended, -⟩ := Scan.tokens_ends source
  have finish : last.isFinish = true := by
    rw [Token.isFinish, beq_iff_eq]
    exact congrArg Prod.fst ended
  rw [tokenAt_map, tokenAt]
  cases (Scan.ofText source).tokens[k]? with
  | some t => rfl
  | none =>
    have lowered : last.beforeNewline = last.lowered 1 := if_pos finish
    simp only [split, Parser.ofTokens, List.getLast?_concat, Option.map_some, Option.getD_some, Option.getD_none,
      lowered]
    rfl

theorem line_tokenAt {tokens : List Token} (flat : ∀ t ∈ tokens, t.line = 1) (k : Nat) :
    (tokenAt tokens k).line = 1 := by
  rw [tokenAt]
  cases found : tokens[k]? with
  | some t => exact flat t (List.mem_of_getElem? found)
  | none =>
    show (tokens.getLast?.map Token.line).getD 1 = 1
    cases last : tokens.getLast? with
    | none => rfl
    | some t => exact flat t (List.mem_of_getLast? last)

namespace Expr

theorem reworded_of_bound {f : Token → Token} (fixes : ∀ t, t.isFinish = false → f t = t) {e : Expr}
    (bound : e.Bound) : e.reworded f = e := by
  induction e with
  | literal v => rfl
  | group inner ih => rw [reworded, ih bound]
  | unary operator operand ih =>
    rw [reworded, ih bound.2.2, fixes operator (Token.not_finish_of_isPrefixOperator bound.1)]
  | binary left operator right ihLeft ihRight =>
    obtain ⟨q, found, -, -, boundLeft, boundRight⟩ := bound
    rw [reworded, ihLeft boundLeft, ihRight boundRight, fixes operator (Token.not_finish_of_precedence? found)]

theorem operator_mem_tokens {tokens : List Token} {e : Expr} {err : RuntimeError} (parsed : ofTokens tokens = .ok e)
    (failed : e.evaluate = .error err) : ∃ t ∈ tokens, err.line = t.line := by
  rw [evaluate_eq_outcome] at failed
  obtain ⟨failure, outcome, rfl⟩ := mapError_eq_error_iff.mp failed
  have spells := ofTokens_eq_ok_iff.mp parsed
  obtain ⟨member, -⟩ := (fails_of_outcome outcome).fits spells.reads spells.bound
  exact ⟨failure.operator, (List.takeWhile_prefix _).subset member, rfl⟩

end Expr

namespace Run.Course

variable {source : String} {stage : Option Stage} {seen : Option Expr} {result : Except Diagnostics Value}

theorem newline (course : Course source stage seen result) :
    Course (source ++ "\n") stage seen (result.mapError (List.map Diagnostic.beforeNewline)) := by
  have tokens := Scan.tokens_newline source
  have cleared (clean : (Scan.ofText source).errors = []) : (Scan.ofText (source ++ "\n")).errors = [] := by
    rw [Scan.errors_newline, clean, List.map_nil]
  obtain ⟨-, parses, rejects, -⟩ := Expr.reparses Token.symbol_beforeNewline (Scan.ofText source).tokens
  rw [← tokens] at parses rejects
  -- The operators of what is parsed are no ends, so the tree is the same.
  have again {e : Expr} (parsed : Expr.ofTokens (Scan.ofText source).tokens = .ok e) :
      Expr.ofTokens (Scan.ofText (source ++ "\n")).tokens = .ok e := by
    have bound := (Expr.ofTokens_eq_ok_iff.mp parsed).bound
    rw [parses e parsed, Expr.reworded_of_bound (fun _ => Token.beforeNewline_of_going) bound]
  cases course with
  | scan faulty =>
    have still : (Scan.ofText (source ++ "\n")).errors ≠ [] := by
      rw [Scan.errors_newline]
      exact fun none => faulty (List.map_eq_nil_iff.mp none)
    have answer := Course.scan still
    rw [Scan.diagnostics_newline] at answer
    exact answer
  | @parse err clean rejected =>
    obtain ⟨told, refused⟩ := rejects err rejected
    have answer := Course.parse (cleared clean) refused
    rw [tokens, tokenAt_newline, ← told, ← SyntaxError.beforeNewline_diagnostic] at answer
    exact answer
  | evaluation clean parsed failed => exact .evaluation (cleared clean) (again parsed) failed
  | value clean parsed evaluated => exact .value (cleared clean) (again parsed) evaluated

theorem on_first_line (typed : '\n' ∉ source.toList) {ds : Diagnostics}
    (course : Course source stage seen (.error ds)) : ∀ d ∈ ds, d.line = 1 := by
  have flat (t : Token) (member : t ∈ (Scan.ofText source).tokens) := Scan.line_of_mem_tokens typed member
  cases course with
  | scan =>
    intro d member
    obtain ⟨e, among, rfl⟩ := List.mem_map.mp member
    exact Scan.line_of_mem_errors typed among
  | @parse err clean rejected =>
    obtain ⟨told, -⟩ := (Expr.reparses (f := id) (fun _ => rfl) _).rejected err rejected
    rw [List.forall_mem_singleton]
    show err.token.line = 1
    rw [told]
    exact line_tokenAt flat _
  | @evaluation e err clean parsed failed =>
    obtain ⟨t, member, line⟩ := Expr.operator_mem_tokens parsed failed
    rw [List.forall_mem_singleton]
    exact line.trans (flat t member)

end Run.Course

namespace Session

variable (text : String)

theorem trimmed_newline : trimmed (text ++ "\n") = [] ↔ trimmed text = [] := by
  rw [← isBlank_iff_trimmed, ← isBlank_iff_trimmed, isBlank, String.toList_append, List.all_append]
  exact Bool.and_eq_true_iff.trans (and_iff_left rfl)

theorem alone?_newline : alone? (text ++ "\n") =
    (alone? text).map fun result => result.mapError (List.map Diagnostic.beforeNewline) := by
  obtain ⟨stage, seen, result, course⟩ := Run.exists_course text
  simp only [alone?, trimmed_newline, course.ofText_eq, course.newline.ofText_eq]
  split <;> rfl

theorem faults_newline : faults (text ++ "\n") = (faults text).map Diagnostic.beforeNewline := by
  rw [faults, alone?_newline, faults]
  rcases alone? text with _ | ds | v <;> rfl

theorem fails_newline : fails (text ++ "\n") = fails text := by
  rw [fails, alone?_newline, fails]
  rcases alone? text with _ | ds | v <;> rfl

theorem shown_newline (rendering : Option Rendering) : shown rendering (text ++ "\n") = shown rendering text := by
  obtain ⟨stage, seen, result, course⟩ := Run.exists_course text
  simp only [shown, trimmed_newline, report, course.ofText_eq, course.newline.ofText_eq]
  cases result <;> rfl

variable {text}

theorem faults_on_first_line (typed : '\n' ∉ text.toList) : ∀ d ∈ faults text, d.line = 1 := by
  obtain ⟨stage, seen, result, course⟩ := Run.exists_course text
  unfold faults alone?
  rw [course.ofText_eq]
  by_cases nothing : trimmed text = []
  · simp [nothing]
  · cases result with
    | ok v => simp [nothing]
    | error ds => simpa [nothing] using course.on_first_line typed

theorem beforeNewline_eq {d : Diagnostic} (first : d.line = 1) :
    d.beforeNewline = if d.isAtEnd then { d with line := 2 } else d := by
  rw [Diagnostic.beforeNewline, Diagnostic.lowered, first]

structure AnswersTyped (text : String) : Prop where
  answers : ∀ (rendering : Option Rendering) (session : Session),
    session.answer? rendering text.toUTF8 =
      some (⟨shown rendering text, told text⟩, ⟨session.failed || fails text⟩) ∧
    session.answer? rendering (text ++ "\n").toUTF8 =
      some (⟨shown rendering text, told (text ++ "\n")⟩, ⟨session.failed || fails text⟩)
  line : ∀ d ∈ faults text, d.line = 1
  moved : faults (text ++ "\n") = (faults text).map fun d => if d.isAtEnd then { d with line := 2 } else d
  stays : (∀ d ∈ faults (text ++ "\n"), d.line = 1) ↔ ∀ d ∈ faults text, d.isAtEnd = false
  same : faults (text ++ "\n") = faults text ↔ ∀ d ∈ faults text, d.isAtEnd = false

/-- The diagnostics of a typed text stand on its only line if it is ended by the end of the input. A line end moves
those about the end of the text to a second line, and nothing else that is written or remembered. -/
theorem newline_moves_end (typed : '\n' ∉ text.toList) : AnswersTyped text := by
  have line := faults_on_first_line typed
  have moved : faults (text ++ "\n") = (faults text).map fun d => if d.isAtEnd then { d with line := 2 } else d := by
    rw [faults_newline]
    exact List.map_congr_left fun d member => beforeNewline_eq (line d member)
  have stays : (∀ d ∈ faults (text ++ "\n"), d.line = 1) ↔ ∀ d ∈ faults text, d.isAtEnd = false := by
    rw [moved, List.forall_mem_map]
    refine forall₂_congr fun d member => ?_
    cases d.isAtEnd <;> simp [line d member]
  refine ⟨?_, line, moved, stays, ?_⟩
  · intro rendering session
    have ended := answer?_toUTF8 rendering session (text ++ "\n")
    rw [shown_newline, fails_newline] at ended
    exact ⟨answer?_toUTF8 rendering session text, ended⟩
  · constructor
    · intro equal
      rw [equal] at stays
      exact stays.mp line
    · intro none
      rw [moved]
      refine (List.map_congr_left fun d member => ?_).trans (List.map_id _)
      simp [none d member]

theorem open_string_moves_end : '\n' ∉ "@ \"a".toList ∧ AnswersTyped "@ \"a" := by
  have typed : '\n' ∉ "@ \"a".toList := by decide
  exact ⟨typed, newline_moves_end typed⟩

example : (faults "@ \"a\n").map Diagnostic.line = [1, 2] := by
  decide +kernel

end Session

theorem Command.run_moved_by_newline :
    run (fun _ => .error "") "1 +".toUTF8 [] =
      (⟨"> > \nBye bye!\n", "[line 1] Error at end: Expecting an expression.\n"⟩, .failure) ∧
    run (fun _ => .error "") "1 +\n".toUTF8 [] =
      (⟨"> > \nBye bye!\n", "[line 2] Error at end: Expecting an expression.\n"⟩, .failure) := by
  decide +kernel

end Reckon
