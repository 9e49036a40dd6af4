import Reckon.Proofs.RoundTrip

namespace Reckon

def Token.spaced (tokens : List Token) : String := " ".intercalate (tokens.map Token.lexeme)

theorem Token.toList_spaced_cons_cons (t next : Token) (tokens : List Token) :
    (spaced (t :: next :: tokens)).toList = t.lexeme.toList ++ ' ' :: (spaced (next :: tokens)).toList := by
  simp [spaced]

theorem Scans.spelled {rest : List Char} {items : List Content} {t : Token} (scans : Scans rest items)
    (lexeme : Lexeme t.lexeme.toList t.symbol) (apart : t.symbol.Apart rest) :
    Scans (t.lexeme.toList ++ rest) (.ok t.spelled :: items) := by
  have found := token lexeme apart scans
  rwa [String.ofList_toList] at found

theorem Scans.spaced {tokens : List Token} (lexemes : ∀ t ∈ tokens, Lexeme t.lexeme.toList t.symbol) :
    Scans (Token.spaced tokens).toList ((tokens.map Token.spelled ++ [(Symbol.finish, "")]).map .ok) := by
  induction tokens with
  | nil => exact .nil
  | cons t tokens ih =>
    obtain ⟨lexeme, others⟩ := List.forall_mem_cons.mp lexemes
    have behind := ih others
    cases tokens with
    | nil =>
      have last := Scans.nil.spelled lexeme t.symbol.apart_nil
      rw [List.append_nil] at last
      simpa [Token.spaced] using last
    | cons next tokens =>
      rw [Token.toList_spaced_cons_cons]
      exact behind.space.spelled lexeme ((follows_space _).apart _)

namespace Scan

/-- Scanned again from their lexemes with spaces in between, the tokens of a text are the same but for their lines, and
no error is told. -/
theorem lexemes_scan_again (source : String) :
    let again := ofText (Token.spaced (beforeFinish (ofText source).tokens))
    again.errors = [] ∧
      (beforeFinish again.tokens).map Token.spelled = (beforeFinish (ofText source).tokens).map Token.spelled ∧
      again.tokens.map Token.spelled = (ofText source).tokens.map Token.spelled := by
  intro again
  obtain ⟨last, split, ended, lexemes⟩ := tokens_beforeFinish source
  obtain ⟨lastAgain, splitAgain, endedAgain, -⟩ :=
    tokens_beforeFinish (Token.spaced (beforeFinish (ofText source).tokens))
  obtain ⟨errors, tokens⟩ := ofText_of_scans (Scans.spaced lexemes)
  have whole : again.tokens.map Token.spelled = (ofText source).tokens.map Token.spelled := by
    rw [split, List.map_append, List.map_singleton, ended]
    exact tokens
  refine ⟨errors, ?_, whole⟩
  rw [splitAgain, List.map_append, List.map_singleton, endedAgain] at tokens
  exact List.append_cancel_right tokens

example : Token.spaced (beforeFinish (ofText "1.#2/\t/!@= \"a\nb\"é9").tokens) = "1 . 2 / / ! = \"a\nb\" é9" := by
  decide +kernel

end Scan

end Reckon
