import Reckon.Text.Printable

namespace Reckon

structure Cursor where
  source : String
  rest : List Char
  offset : Nat
  line : Nat

namespace Cursor

def ofText (source : String) : Cursor := ⟨source, source.toList, 0, 1⟩

def isAtEnd (c : Cursor) : Bool := c.rest.isEmpty

def peek? (c : Cursor) : Option Char := c.rest.head?

def peekNext? (c : Cursor) : Option Char := c.rest[1]?

def next (c : Cursor) : Cursor :=
  match c.rest with
  | [] => c
  | ch :: rest =>
    { c with rest, offset := c.offset + ch.utf8Size, line := if ch = '\n' then c.line + 1 else c.line }

def advance (c : Cursor) : Nat → Cursor
  | 0 => c
  | count + 1 => c.next.advance count

def advanceWhile (p : Char → Bool) (c : Cursor) : Cursor :=
  c.advance (c.rest.takeWhile p).length

def nextIf? (c : Cursor) (expected : Char) : Option Cursor :=
  if c.peek? = some expected then some c.next else none

/-- The same place in the same text. Lines follow from that and are not looked at. -/
def agrees (a b : Cursor) : Bool := a.source == b.source && a.rest == b.rest

/-- The first `count` bytes of a text, less a character they cut through. -/
def firstBytes (count : Nat) : List Char → List Char
  | [] => []
  | ch :: rest => if ch.utf8Size ≤ count then ch :: firstBytes (count - ch.utf8Size) rest else []

def slice? (start stop : Cursor) : Option String :=
  if start.source = stop.source ∧ start.offset ≤ stop.offset then
    some (String.ofList (firstBytes (stop.offset - start.offset) start.rest))
  else none

theorem rest_next (c : Cursor) : c.next.rest = c.rest.tail := by
  unfold next
  split <;> simp_all

@[simp] theorem rest_advance (c : Cursor) (count : Nat) : (c.advance count).rest = c.rest.drop count := by
  induction count generalizing c with
  | zero => rfl
  | succ count ih => rw [advance, ih, rest_next, List.drop_tail]

@[simp] theorem rest_advanceWhile (p : Char → Bool) (c : Cursor) :
    (c.advanceWhile p).rest = c.rest.dropWhile p := by
  rw [advanceWhile, rest_advance]
  induction c.rest with
  | nil => rfl
  | cons ch rest ih => by_cases h : p ch <;> simp [h, ih]

def description (c : Cursor) : String :=
  "Cursor \x7b line: Line(" ++ toString c.line ++ "), offset: " ++ toString c.offset ++ " \x7d"

def escaped : Char → String
  | '\x00' => "\\0"
  | '\n' => "\\n"
  | '\r' => "\\r"
  | '\t' => "\\t"
  | '"' => "\\\""
  | '\\' => "\\\\"
  | c => if isPrintable c then c.toString else "\\u\x7b" ++ String.ofList (Nat.toDigits 16 c.toNat) ++ "\x7d"

def longDescription (c : Cursor) : String :=
  "Cursor \x7b\n    line: Line(\n        " ++ toString c.line ++ ",\n    ),\n    offset: " ++
    toString c.offset ++ ",\n    rest: \"" ++ String.join (c.rest.map escaped) ++ "\",\n\x7d"

end Cursor

end Reckon
