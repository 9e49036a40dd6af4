import Reckon.Cursor
import Reckon.Token.Reading

namespace Reckon

def isSpace (c : Char) : Bool := c == ' ' || c == '\r' || c == '\t' || c == '\n'

theorem isSpace_iff {c : Char} : isSpace c = true ↔ c ∈ [' ', '\r', '\t', '\n'] := by
  simp [isSpace, or_assoc]

def startsSpace : List Char → Bool
  | c :: _ => isSpace c
  | [] => false

def startsComment : List Char → Bool
  | '/' :: '/' :: _ => true
  | _ => false

namespace Cursor

theorem length_next_lt {c : Cursor} (space : startsSpace c.rest = true) :
    c.next.rest.length < c.rest.length := by
  rw [rest_next]
  cases ahead : c.rest with
  | nil => simp [ahead, startsSpace] at space
  | cons ch rest => simp

theorem length_comment_lt {c : Cursor} (comment : startsComment c.rest = true) :
    (c.advanceWhile (· != '\n')).rest.length < c.rest.length := by
  rw [rest_advanceWhile]
  unfold startsComment at comment
  split at comment
  · rename_i rest ahead
    have shorter := (List.dropWhile_suffix (l := rest) (· != '\n')).length_le
    simp only [ahead, List.length_cons]
    simpa using by omega
  · cases comment

/-- Past spaces, line ends and comments. A comment runs up to the end of its line. -/
def skipLayout (c : Cursor) : Cursor :=
  if _space : startsSpace c.rest then c.next.skipLayout
  else if _comment : startsComment c.rest then (c.advanceWhile (· != '\n')).skipLayout
  else c
termination_by c.rest.length
decreasing_by
  · exact length_next_lt _space
  · exact length_comment_lt _comment

theorem skipLayout_suffix (c : Cursor) : c.skipLayout.rest <:+ c.rest := by
  fun_induction skipLayout c with
  | case1 c space ih => exact ih.trans (by rw [rest_next]; exact List.tail_suffix _)
  | case2 c space comment ih => exact ih.trans (by rw [rest_advanceWhile]; exact List.dropWhile_suffix _)
  | case3 => exact List.suffix_refl _

end Cursor

structure Lexer where
  cursor : Cursor
  told : Bool

namespace Lexer

def ofText (source : String) : Lexer := ⟨.ofText source, false⟩

/-- The next token or error, the end of the text once, and then nothing any more. Lines are those on which the
characters taken end. -/
def next? (l : Lexer) : Option (Except LexicalError Token × Lexer) :=
  if l.told then none
  else
    let start := l.cursor.skipLayout
    match start.rest with
    | [] => some (.ok (.finish start.line), ⟨start, true⟩)
    | c :: rest =>
      let reading := Reading.ofText c rest
      let stop := start.advance reading.taken.length
      match reading.result with
      | .ok symbol => some (.ok ⟨symbol, String.ofList reading.taken, stop.line⟩, ⟨stop, false⟩)
      | .error fault => some (.error ⟨fault, stop.line⟩, ⟨stop, false⟩)

def pending (l : Lexer) : Nat := if l.told then 0 else l.cursor.rest.length + 1

theorem pending_next? {l next : Lexer} {item : Except LexicalError Token}
    (more : l.next? = some (item, next)) : next.pending < l.pending := by
  unfold next? at more
  split at more
  · cases more
  · rename_i going
    simp only [Bool.not_eq_true] at going
    have skipped := l.cursor.skipLayout_suffix.length_le
    dsimp only at more
    split at more
    · cases more
      simp [pending, going]
    · rename_i c rest ahead
      have taken := List.length_pos_iff.2 (Reading.taken_ne_nil c rest)
      rw [ahead, List.length_cons] at skipped
      split at more <;> cases more <;>
        simp only [pending, going, Cursor.rest_advance, ahead, List.length_drop, List.length_cons] <;>
        simp <;> omega

def collect (l : Lexer) (found : Array (Except LexicalError Token)) :
    Nat → List (Except LexicalError Token)
  | 0 => found.toList
  | count + 1 =>
    match l.next? with
    | none => found.toList
    | some (item, next) => next.collect (found.push item) count

def items (l : Lexer) : List (Except LexicalError Token) := l.collect #[] l.pending

end Lexer

structure Scan where
  tokens : List Token
  errors : List LexicalError

def Scan.ofText (source : String) : Scan :=
  let items := (Lexer.ofText source).items
  { tokens := items.filterMap fun
      | .ok token => some token
      | .error _ => none
    errors := items.filterMap fun
      | .ok _ => none
      | .error e => some e }

def Scan.diagnostics (scan : Scan) : Diagnostics := scan.errors.map LexicalError.diagnostic

end Reckon
