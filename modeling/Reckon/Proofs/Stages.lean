import Mathlib.Control.Monad.Basic
import Reckon.Proofs.Coverage
import Reckon.Run

namespace Reckon

def Stretch.report (s : Stretch) : Option Diagnostic :=
  match s.item with
  | .ok _ => none
  | .error err => some err.diagnostic

namespace Scan

theorem diagnostics_of_items {source : String} {stretches : List Stretch} {line : Nat}
    (items : (Lexer.ofText source).items = stretches.map Stretch.item ++ [.ok (.finish line)]) :
    (ofText source).diagnostics = stretches.filterMap Stretch.report := by
  simp only [diagnostics, ofText, items, List.filterMap_append, List.filterMap_map, List.filterMap_cons,
    List.filterMap_nil, List.append_nil, List.map_filterMap]
  refine congrArg (List.filterMap · stretches) (funext fun s => ?_)
  simp only [Function.comp_apply, Stretch.report]
  cases s.item <;> rfl

theorem hasAny_diagnostics (scan : Scan) : scan.diagnostics.hasAny = !scan.errors.isEmpty := by
  simp [diagnostics, Diagnostics.hasAny]

end Scan

namespace Run

def reporting {α ε : Type} (diagnostic : ε → Diagnostic) (collected : Diagnostics) :
    Except ε α → Option α × Diagnostics
  | .ok a => (some a, collected)
  | .error err => (none, collected.report (diagnostic err))

/-- A run as a program: each stage is handed the diagnostics collected so far, and adds to them. What observing and
evaluating an expression does besides is left open, so the program shows how often and in which order they happen. -/
def staged {m : Type → Type} [Monad m] (observe : Expr → m Unit)
    (evaluate : Expr → m (Except RuntimeError Value)) (source : String) : m (Except Diagnostics Value) :=
  let (tokens, scanned) := (Lexer.ofText source).items.foldl Scan.gather ([], [])
  if scanned.hasAny then pure (.error scanned)
  else
    match reporting SyntaxError.diagnostic scanned (Expr.ofTokens tokens) with
    | (none, parsed) => pure (.error parsed)
    | (some e, parsed) => do
      observe e
      match reporting RuntimeError.diagnostic parsed (← evaluate e) with
      | (none, evaluated) => pure (.error evaluated)
      | (some v, _) => pure (.ok v)

def observed {m : Type → Type} [Monad m] (observe : Expr → m Unit)
    (evaluate : Expr → m (Except RuntimeError Value)) (e : Expr) : m (Except Diagnostics Value) := do
  observe e
  let answer ← evaluate e
  return answer.mapError fun err => [err.diagnostic]

/-- How a run goes: the stage that ends it, unless it comes to a value, the expression there is to observe, and the
result. -/
inductive Course (source : String) : Option Stage → Option Expr → Except Diagnostics Value → Prop
  | scan (faulty : (Scan.ofText source).errors ≠ []) :
      Course source (some .lexical) none (.error (Scan.ofText source).diagnostics)
  | parse {err : SyntaxError} (clean : (Scan.ofText source).errors = [])
      (rejected : Expr.ofTokens (Scan.ofText source).tokens = .error err) :
      Course source (some .syntactic) none (.error [err.diagnostic])
  | evaluation {e : Expr} {err : RuntimeError} (clean : (Scan.ofText source).errors = [])
      (parsed : Expr.ofTokens (Scan.ofText source).tokens = .ok e) (failed : e.evaluate = .error err) :
      Course source (some .evaluation) (some e) (.error [err.diagnostic])
  | value {e : Expr} {v : Value} (clean : (Scan.ofText source).errors = [])
      (parsed : Expr.ofTokens (Scan.ofText source).tokens = .ok e) (evaluated : e.evaluate = .ok v) :
      Course source none (some e) (.ok v)

theorem exists_course (source : String) : ∃ stage seen result, Course source stage seen result := by
  by_cases clean : (Scan.ofText source).errors = []
  · cases parsed : Expr.ofTokens (Scan.ofText source).tokens with
    | error err => exact ⟨_, _, _, .parse clean parsed⟩
    | ok e =>
      cases evaluated : e.evaluate with
      | error err => exact ⟨_, _, _, .evaluation clean parsed evaluated⟩
      | ok v => exact ⟨_, _, _, .value clean parsed evaluated⟩
  · exact ⟨_, _, _, .scan clean⟩

theorem staged_of_scan {m : Type → Type} [Monad m] (observe : Expr → m Unit)
    (evaluate : Expr → m (Except RuntimeError Value)) (source : String) :
    staged observe evaluate source =
      if (Scan.ofText source).errors = [] then
        match Expr.ofTokens (Scan.ofText source).tokens with
        | .error err => pure (.error [err.diagnostic])
        | .ok e => observed observe evaluate e
      else pure (.error (Scan.ofText source).diagnostics) := by
  have scanned : (Lexer.ofText source).items.foldl Scan.gather ([], []) =
      ((Scan.ofText source).tokens, (Scan.ofText source).diagnostics) := Scan.gather_items _ [] []
  simp only [staged, scanned, Scan.hasAny_diagnostics]
  by_cases clean : (Scan.ofText source).errors = []
  · have nothing : (Scan.ofText source).diagnostics = [] := by rw [Scan.diagnostics, clean, List.map_nil]
    simp only [clean, nothing, List.isEmpty_nil, Bool.not_true, Bool.false_eq_true, ↓reduceIte]
    cases Expr.ofTokens (Scan.ofText source).tokens with
    | error err => rfl
    | ok e =>
      -- Both programs observe and then evaluate; only what they make of the answer is told in two ways.
      refine bind_congr fun _ => bind_congr fun answer => ?_
      cases answer <;> rfl
  · simp [clean]

namespace Course

variable {source : String} {stage : Option Stage} {seen : Option Expr} {result : Except Diagnostics Value}

theorem ofText_eq (course : Course source stage seen result) {α : Type} (observe : Expr → α) :
    ofText observe source = ⟨seen.map observe, result⟩ := by
  cases course with
  | scan faulty =>
    obtain ⟨err, more, errors⟩ := List.exists_cons_of_ne_nil faulty
    simp [ofText, errors]
  | parse clean rejected => simp only [ofText, clean, rejected, Option.map_none]
  | evaluation clean parsed failed =>
    simp only [ofText, clean, parsed, failed, Option.map_some, Except.mapError]
  | value clean parsed evaluated =>
    simp only [ofText, clean, parsed, evaluated, Option.map_some, Except.mapError]

theorem staged_eq (course : Course source stage seen result) {m : Type → Type} [Monad m]
    (observe : Expr → m Unit) (evaluate : Expr → m (Except RuntimeError Value)) :
    staged observe evaluate source = seen.elim (pure result) (observed observe evaluate) := by
  rw [staged_of_scan]
  cases course with
  | scan faulty => simp only [faulty, ↓reduceIte, Option.elim_none]
  | parse clean rejected => simp only [clean, rejected, ↓reduceIte, Option.elim_none]
  | evaluation clean parsed => simp only [clean, parsed, ↓reduceIte, Option.elim_some]
  | value clean parsed => simp only [clean, parsed, ↓reduceIte, Option.elim_some]

theorem staged_evaluate_eq (course : Course source stage seen result) {m : Type → Type} [Monad m] [LawfulMonad m]
    (observe : Expr → m Unit) :
    staged observe (fun e => pure e.evaluate) source = do
      seen.elim (pure ()) observe
      return result := by
  rw [course.staged_eq]
  cases course with
  | scan => simp
  | parse => simp
  | evaluation _ _ failed => simp [observed, failed, Except.mapError]
  | value _ _ evaluated => simp [observed, evaluated, Except.mapError]

theorem reports {ds : Diagnostics} (course : Course source stage seen (.error ds)) :
    ds ≠ [] ∧ ∀ d ∈ ds, stage = some d.stage := by
  cases course with
  | scan faulty =>
    refine ⟨by simpa [Scan.diagnostics] using faulty, ?_⟩
    intro d member
    obtain ⟨err, -, rfl⟩ := List.mem_map.mp member
    rfl
  | parse => simp [SyntaxError.diagnostic]
  | evaluation => simp [RuntimeError.diagnostic]

theorem stage_of_error {ds : Diagnostics} (course : Course source stage seen (.error ds)) :
    stage = ds.head?.map Diagnostic.stage := by
  obtain ⟨some, all⟩ := course.reports
  obtain ⟨d, more, rfl⟩ := List.exists_cons_of_ne_nil some
  exact all d List.mem_cons_self

theorem stage_of_ok {v : Value} (course : Course source stage seen (.ok v)) : stage = none := by
  cases course
  rfl

theorem unique {other : Option Stage} {others : Option Expr} {otherwise : Except Diagnostics Value}
    (course : Course source stage seen result) (also : Course source other others otherwise) :
    other = stage ∧ others = seen ∧ otherwise = result := by
  have run := (also.ofText_eq id).symm.trans (course.ofText_eq id)
  simp only [Option.map_id, id, Run.mk.injEq] at run
  obtain ⟨rfl, rfl⟩ := run
  refine ⟨?_, rfl, rfl⟩
  cases otherwise with
  | error ds => exact also.stage_of_error.trans course.stage_of_error.symm
  | ok v => exact also.stage_of_ok.trans course.stage_of_ok.symm

theorem in_order (course : Course source (some .lexical) seen result) :
    ∃ stretches last, Covers source.toList 1 stretches last ∧
      result = .error (stretches.filterMap Stretch.report) := by
  obtain ⟨stretches, last, covers, items⟩ := Lexer.items_cover (.ofText source)
  refine ⟨stretches, last, covers, ?_⟩
  cases course
  exact congrArg Except.error (Scan.diagnostics_of_items items)

end Course

/-- A text has one course, whatever observes its expression. It is not observed unless it is there, and then once and
before it is evaluated. What a run reports is something, and all of it comes from the stage that ends the run. -/
theorem ends_in_one_stage (source : String) : ∃ stage seen result, Course source stage seen result ∧
    (∀ other others otherwise, Course source other others otherwise →
      other = stage ∧ others = seen ∧ otherwise = result) ∧
    (∀ {α : Type} (observe : Expr → α), ofText observe source = ⟨seen.map observe, result⟩) ∧
    (∀ {m : Type → Type} [Monad m] (observe : Expr → m Unit) (evaluate : Expr → m (Except RuntimeError Value)),
      staged observe evaluate source = seen.elim (pure result) (observed observe evaluate)) ∧
    (∀ {m : Type → Type} [Monad m] [LawfulMonad m] (observe : Expr → m Unit),
      staged observe (fun e => pure e.evaluate) source = do
        seen.elim (pure ()) observe
        return result) ∧
    (∀ ds, result = .error ds → ds ≠ [] ∧ ∀ d ∈ ds, stage = some d.stage) ∧
    (stage = some .lexical → ∃ stretches last, Covers source.toList 1 stretches last ∧
      result = .error (stretches.filterMap Stretch.report)) := by
  obtain ⟨stage, seen, result, course⟩ := exists_course source
  refine ⟨stage, seen, result, course, ?unique, course.ofText_eq, course.staged_eq, course.staged_evaluate_eq,
    ?reports, ?order⟩
  case unique =>
    intro other others otherwise also
    exact course.unique also
  case reports =>
    intro ds failed
    rw [failed] at course
    exact course.reports
  case order =>
    intro lexical
    rw [lexical] at course
    exact course.in_order

example : (Scan.ofText "1 @").errors ≠ [] ∧
    (Expr.ofTokens (Scan.ofText "1 @").tokens).isOk = true ∧
    (ofText id "1 @").result = .error [⟨.lexical, 1, .line, "Unexpected character."⟩] := by
  decide +kernel

end Run

end Reckon
