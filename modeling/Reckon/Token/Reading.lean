import Reckon.Text.Alphabetic
import Reckon.Token

namespace Reckon

inductive LexicalFault where
  | unexpectedCharacter (c : Char)
  | unterminatedString
deriving DecidableEq

def LexicalFault.message : LexicalFault → String
  | unexpectedCharacter _ => "Unexpected character."
  | unterminatedString => "Unterminated string."

structure LexicalError where
  fault : LexicalFault
  line : Nat
deriving DecidableEq

def LexicalError.diagnostic (e : LexicalError) : Diagnostic := ⟨.lexical, e.line, .line, e.fault.message⟩

structure Reading where
  taken : List Char
  result : Except LexicalFault Symbol

namespace Reading

/-- The longest mark at a place where no comment starts. -/
def mark? : Char → List Char → Option Mark
  | '!', '=' :: _ => some .bangEqual
  | '=', '=' :: _ => some .equalEqual
  | '<', '=' :: _ => some .lessEqual
  | '>', '=' :: _ => some .greaterEqual
  | '(', _ => some .leftParen
  | ')', _ => some .rightParen
  | '{', _ => some .leftBrace
  | '}', _ => some .rightBrace
  | ',', _ => some .comma
  | '.', _ => some .dot
  | '-', _ => some .minus
  | '+', _ => some .plus
  | ';', _ => some .semicolon
  | '/', _ => some .slash
  | '*', _ => some .star
  | '!', _ => some .bang
  | '=', _ => some .equal
  | '<', _ => some .less
  | '>', _ => some .greater
  | _, _ => none

/-- A string whose opening quote is followed by this text. It has no escapes, and may run over several
lines. -/
def string (rest : List Char) : Reading :=
  let body := rest.takeWhile (· != '"')
  match rest.dropWhile (· != '"') with
  | [] => ⟨'"' :: body, .error .unterminatedString⟩
  | _ => ⟨'"' :: (body ++ ['"']), .ok (.string (String.ofList body))⟩

/-- A number at a digit. A point belongs to it only if a digit follows. -/
def number (text : List Char) : Reading :=
  let whole := text.takeWhile Char.isDigit
  match text.dropWhile Char.isDigit with
  | '.' :: after =>
    match after.takeWhile Char.isDigit with
    | [] => ⟨whole, .ok (.number (.ofDecimal (.ofDigits whole [])))⟩
    | fraction => ⟨whole ++ '.' :: fraction, .ok (.number (.ofDecimal (.ofDigits whole fraction)))⟩
  | _ => ⟨whole, .ok (.number (.ofDecimal (.ofDigits whole [])))⟩

def startsWord (c : Char) : Bool := isAlphabetic c || c == '_'

def continuesWord (c : Char) : Bool := isAlphabetic c || c.isDigit || c == '_'

def word (text : List Char) : Reading :=
  let letters := text.takeWhile continuesWord
  ⟨letters, .ok (((Keyword.ofText? (String.ofList letters)).map Symbol.keyword).getD .identifier)⟩

def ofText (c : Char) (rest : List Char) : Reading :=
  match mark? c rest with
  | some mark => ⟨mark.text.toList, .ok (.mark mark)⟩
  | none =>
    if c == '"' then string rest
    else if c.isDigit then number (c :: rest)
    else if startsWord c then word (c :: rest)
    else ⟨[c], .error (.unexpectedCharacter c)⟩

theorem taken_ne_nil (c : Char) (rest : List Char) : (ofText c rest).taken ≠ [] := by
  unfold ofText
  split
  · rename_i mark _
    cases mark <;> decide
  · split
    · unfold string
      split <;> simp
    · split
      · rename_i digit
        unfold number
        rw [List.takeWhile_cons_of_pos digit, List.dropWhile_cons_of_pos digit]
        split
        · split <;> simp
        · simp
      · split
        · rename_i letter
          have continues : continuesWord c = true := by
            simp only [startsWord, Bool.or_eq_true] at letter
            simp only [continuesWord, Bool.or_eq_true]
            exact letter.imp .inl id
          simp [word, List.takeWhile_cons_of_pos continues]
        · simp

end Reading

end Reckon
