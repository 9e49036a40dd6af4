import Reckon.Expr.Evaluate
import Reckon.Expr.Parser
import Reckon.Token.Lexer

namespace Reckon

structure Run (α : Type) where
  seen : Option α
  result : Except Diagnostics Value

/-- Runs a text and lets `observe` see its expression before that is evaluated. -/
def Run.ofText {α : Type} (observe : Expr → α) (source : String) : Run α :=
  let scan := Scan.ofText source
  match scan.errors with
  | [] =>
    match Expr.ofTokens scan.tokens with
    | .error e => ⟨none, .error [e.diagnostic]⟩
    | .ok e => ⟨some (observe e), e.evaluate.mapError fun err => [err.diagnostic]⟩
  | _ => ⟨none, .error scan.diagnostics⟩

end Reckon
