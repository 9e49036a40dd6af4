import Reckon.Proofs.Coverage

namespace Reckon

namespace Reading

/-- A character that can go on with a lexeme in front of it, or make a comment of it. -/
def joins (c : Char) : Bool := continuesWord c || c == '.' || c == '=' || c == '/'

theorem joins_of_isDigit {c : Char} (digit : c.isDigit = true) : joins c = true := by
  simp [joins, continuesWord, digit]

theorem joins_of_continuesWord {c : Char} (continues : continuesWord c = true) : joins c = true := by
  simp [joins, continues]

/-- Behind the same lexeme both texts do the same to it. -/
def Resembles (a b : List Char) : Prop := a.takeWhile joins = b.takeWhile joins

namespace Resembles

variable {a b : List Char}

theorem symm (same : Resembles a b) : Resembles b a := Eq.symm same

theorem append (front : List Char) (same : Resembles a b) : Resembles (front ++ a) (front ++ b) := by
  induction front with
  | nil => exact same
  | cons c front ih =>
    unfold Resembles at ih ⊢
    simp only [List.cons_append, List.takeWhile_cons, ih]

theorem head {c : Char} {rest : List Char} (same : Resembles a b) (ahead : a = c :: rest) (joined : joins c = true) :
    ∃ more, b = c :: more ∧ Resembles rest more := by
  subst ahead
  cases b with
  | nil => simp [Resembles, joined] at same
  | cons d more =>
    unfold Resembles at same
    rw [List.takeWhile_cons_of_pos joined, List.takeWhile_cons] at same
    split at same
    · obtain ⟨rfl, rest⟩ := List.cons.inj same
      exact ⟨more, rfl, rest⟩
    · cases same

theorem head?_eq {c : Char} (same : Resembles a b) (joined : joins c = true) :
    a.head? = some c ↔ b.head? = some c := by
  constructor
  · intro first
    obtain ⟨rest, ahead⟩ := List.head?_eq_some_iff.mp first
    obtain ⟨more, rfl, -⟩ := same.head ahead joined
    rfl
  · intro first
    obtain ⟨rest, ahead⟩ := List.head?_eq_some_iff.mp first
    obtain ⟨more, rfl, -⟩ := same.symm.head ahead joined
    rfl

end Resembles

theorem Spans.resembling {p : Char → Bool} {run rest other : List Char} (spans : Spans p run rest)
    (same : Resembles rest other) (joined : ∀ c, p c = true → joins c = true) : Spans p run other := by
  refine ⟨spans.all, ?_⟩
  intro c after ahead
  rw [Bool.eq_false_iff]
  intro more
  obtain ⟨again, behind, -⟩ := same.symm.head ahead (joined c more)
  rw [spans.ends c again behind] at more
  cases more

theorem mark?_eq_none_of {c : Char} {rest : List Char} (none : mark? c rest = none) (other : List Char) :
    mark? c other = .none := by
  unfold mark? at none ⊢
  split at none <;> cases none
  split <;> simp_all

theorem apart_of_mark? {m : Mark} {c : Char} {cs left : List Char} (found : mark? c (cs ++ left) = some m)
    (spelled : m.text.toList = c :: cs) (plain : startsComment (c :: (cs ++ left)) = false) :
    (Symbol.mark m).Apart left := by
  cases m with
  | bang | equal | greater | less =>
    intro first
    obtain ⟨after, rfl⟩ := List.head?_eq_some_iff.mp first
    cases spelled
    cases found
  | slash =>
    intro first
    obtain ⟨after, rfl⟩ := List.head?_eq_some_iff.mp first
    cases spelled
    cases plain
  | _ => trivial

theorem Resembles.apart {m : Mark} {left other : List Char} (same : Resembles left other)
    (apart : (Symbol.mark m).Apart left) : (Symbol.mark m).Apart other := by
  cases m with
  | bang | equal | greater | less | slash => exact fun first => apart ((same.head?_eq rfl).mpr first)
  | _ => trivial

theorem number_resembling {digits left other : List Char} (taken : (number (digits ++ left)).taken = digits)
    (same : Resembles left other) : number (digits ++ other) = number (digits ++ left) := by
  rcases number_cases (digits ++ left) with ⟨whole, rest, split, spans, pointless⟩ |
    ⟨whole, fraction, rest, split, all, some, spans⟩
  · rw [split, number_whole spans pointless] at taken
    subst taken
    obtain rfl := List.append_cancel_left split
    rw [number_whole spans pointless]
    refine number_whole (spans.resembling same fun _ => joins_of_isDigit) ?_
    intro d more point
    obtain ⟨pointed, behind, resembles⟩ := same.symm.head point rfl
    rw [Bool.eq_false_iff]
    intro digit
    obtain ⟨farther, rfl, -⟩ := resembles.head rfl (joins_of_isDigit digit)
    rw [pointless d farther behind] at digit
    cases digit
  · rw [split, number_fraction all some spans] at taken
    subst taken
    rw [List.append_assoc, List.cons_append] at split ⊢
    obtain rfl : left = rest := by simpa using split
    rw [List.append_assoc, List.cons_append, number_fraction all some spans]
    exact number_fraction all some (spans.resembling same fun _ => joins_of_isDigit)

theorem word_resembling {letters left other : List Char} (taken : (word (letters ++ left)).taken = letters)
    (same : Resembles left other) : word (letters ++ other) = word (letters ++ left) := by
  have spans : Spans continuesWord letters left := by
    have spans := spans_takeWhile continuesWord (letters ++ left)
    have whole := List.takeWhile_append_dropWhile (p := continuesWord) (l := letters ++ left)
    rw [show (letters ++ left).takeWhile continuesWord = letters from taken] at spans whole
    rwa [List.append_cancel_left whole] at spans
  rw [word_append spans, word_append (spans.resembling same fun _ => joins_of_continuesWord)]

theorem ofText_resembling {c : Char} {cs left other : List Char} (plain : startsComment (c :: (cs ++ left)) = false)
    (closed : (ofText c (cs ++ left)).result ≠ .error .unterminatedString)
    (taken : (ofText c (cs ++ left)).taken = c :: cs) (same : Resembles left other) :
    ofText c (cs ++ other) = ofText c (cs ++ left) := by
  cases found : mark? c (cs ++ left) with
  | some m =>
    rw [ofText_mark found] at taken ⊢
    obtain ⟨d, ds, spelled, again⟩ := Lexeme.mark?_append m (same.apart (apart_of_mark? found taken plain))
    obtain ⟨rfl, rfl⟩ := List.cons.inj (taken.symm.trans spelled)
    exact ofText_mark again
  | none =>
    by_cases quote : c = '"'
    · subst quote
      by_cases member : '"' ∈ cs ++ left
      · obtain ⟨body, after, split, unquoted⟩ := List.eq_append_cons_of_mem member
        rw [ofText_quote, split, string_closed _ unquoted] at taken
        obtain rfl := (List.cons.inj taken).2
        rw [ofText_quote, ofText_quote, split, string_closed _ unquoted, List.append_assoc]
        exact string_closed other unquoted
      · rw [ofText_quote, string_open member] at closed
        exact absurd rfl closed
    · by_cases digit : c.isDigit = true
      · rw [ofText_digit _ digit, ← List.cons_append] at taken ⊢
        rw [ofText_digit _ digit, ← List.cons_append]
        exact number_resembling taken same
      · by_cases starts : startsWord c = true
        · rw [ofText_letter _ starts, ← List.cons_append] at taken ⊢
          rw [ofText_letter _ starts, ← List.cons_append]
          exact word_resembling taken same
        · have nothing (text : List Char) : ofText c text = ⟨[c], .error (.unexpectedCharacter c)⟩ := by
            simp [ofText, mark?_eq_none_of found text, quote, digit, starts]
          rw [nothing, nothing]

theorem taken_cons {c : Char} {rest left : List Char} (split : c :: rest = (ofText c rest).taken ++ left) :
    ∃ cs, rest = cs ++ left ∧ (ofText c rest).taken = c :: cs := by
  obtain ⟨d, cs, taken⟩ := List.exists_cons_of_ne_nil (taken_ne_nil c rest)
  rw [taken, List.cons_append] at split
  obtain ⟨rfl, same⟩ := List.cons.inj split
  exact ⟨cs, same, taken⟩

theorem nothing_behind_unterminated {c : Char} {cs left : List Char} (taken : (ofText c (cs ++ left)).taken = c :: cs)
    (unclosed : (ofText c (cs ++ left)).result = .error .unterminatedString) : left = [] ∧ c = '"' ∧ '"' ∉ cs := by
  rcases Lexeme.of_fault unclosed with ⟨rfl, whole⟩ | ⟨-, alone⟩
  · rw [whole] at taken
    obtain rfl : left = [] := by simpa using (List.cons.inj taken).2
    rw [List.append_nil] at unclosed
    exact ⟨rfl, rfl, notMem_of_unterminated unclosed⟩
  · rw [alone] at unclosed
    cases unclosed

end Reading

open Reading

theorem Clear.resembling {c : Char} {rest other : List Char} (clear : Clear (c :: rest))
    (same : Resembles rest other) : Clear (c :: other) := by
  obtain ⟨spaceless, commentless⟩ := clear
  refine ⟨spaceless, ?_⟩
  rw [Bool.eq_false_iff]
  intro comment
  obtain ⟨after, slashes⟩ := startsComment_iff.mp comment
  obtain ⟨rfl, behind⟩ := List.cons.inj slashes
  obtain ⟨more, rfl, -⟩ := same.symm.head behind rfl
  cases commentless

namespace Gap

variable {first second gap rest other : List Char}

theorem before (layout : Gap gap rest)
    (ends : rest = [] ∨ rest.head? = some '\n' → other = [] ∨ other.head? = some '\n') : Gap gap other := by
  induction layout with
  | nil => exact .nil
  | space space _ ih => exact .space space (ih ends)
  | @comment body gap rest line ending _ ih =>
    refine .comment line ?_ (ih ends)
    cases gap with
    | nil => exact ends ending
    | cons c gap =>
      rcases ending with none | newline
      · cases none
      · exact .inr newline

theorem append (front : Gap first (second ++ rest)) (back : Gap second rest) : Gap (first ++ second) rest := by
  generalize ahead : second ++ rest = text at front
  induction front with
  | nil => exact back
  | space space _ ih => exact .space space (ih ahead)
  | comment line ends _ ih =>
    rw [List.cons_append, List.cons_append, List.append_assoc]
    exact .comment line (by rwa [List.append_assoc, ahead]) (ih ahead)

end Gap

/-- What a scan tells of a text that starts on a line: what is read behind each layout, with the line on which that
ends, and the end of the text. -/
inductive Yields : List Char → Nat → List (Except LexicalError Token) → Prop
  | finish {gap : List Char} {line : Nat} (layout : Gap gap []) :
      Yields gap line [.ok (.finish (line + gap.count '\n'))]
  | item {gap cs left : List Char} {c : Char} {line : Nat} {items : List (Except LexicalError Token)}
      (layout : Gap gap (c :: (cs ++ left))) (clear : Clear (c :: (cs ++ left)))
      (taken : (ofText c (cs ++ left)).taken = c :: cs)
      (more : Yields left (line + (gap ++ c :: cs).count '\n') items) :
      Yields (gap ++ c :: (cs ++ left)) line
        ((ofText c (cs ++ left)).item (line + (gap ++ c :: cs).count '\n') :: items)

structure Lexer.Takes (cursor : Cursor) (gap : List Char) (c : Char) (cs : List Char) (stop : Cursor) : Prop where
  split : cursor.rest = gap ++ c :: (cs ++ stop.rest)
  layout : Gap gap (c :: (cs ++ stop.rest))
  clear : Clear (c :: (cs ++ stop.rest))
  taken : (Reading.ofText c (cs ++ stop.rest)).taken = c :: cs
  line : stop.line = cursor.line + (gap ++ c :: cs).count '\n'
  next : (Lexer.mk cursor false).next? = some ((Reading.ofText c (cs ++ stop.rest)).item stop.line, ⟨stop, false⟩)

theorem Lexer.Takes.shorter {cursor stop : Cursor} {gap cs : List Char} {c : Char}
    (takes : Takes cursor gap c cs stop) : stop.rest.length < cursor.rest.length := by
  rw [takes.split]
  simp only [List.length_append, List.length_cons]
  omega

theorem Lexer.next?_step (cursor : Cursor) :
    (Gap cursor.rest [] ∧ ∃ stop, stop.rest = [] ∧ (Lexer.mk cursor false).next? =
        some (.ok (.finish (cursor.line + cursor.rest.count '\n')), ⟨stop, true⟩)) ∨
      ∃ gap c cs stop, Takes cursor gap c cs stop := by
  obtain ⟨gap, skipped, split, layout, clear⟩ := cursor.skipLayout_gap
  have line : cursor.skipLayout.line = cursor.line + gap.count '\n' := by
    rw [skipped]
    exact Cursor.line_advance_of_append split
  cases ahead : cursor.skipLayout.rest with
  | nil =>
    rw [ahead, List.append_nil] at split
    rw [ahead, ← split] at layout
    refine .inl ⟨layout, cursor.skipLayout, ahead, ?_⟩
    rw [split, ← line]
    simp [next?, ahead]
  | cons c rest =>
    obtain ⟨left, whole, -⟩ := Reading.split_ofText c rest
    obtain ⟨cs, rfl, taken⟩ := Reading.taken_cons whole
    have next := next?_eq ahead
    rw [taken] at next
    have front : cursor.skipLayout.rest = c :: cs ++ left := ahead
    have ends := Cursor.line_advance_of_append front
    rw [line, Nat.add_assoc, ← List.count_append] at ends
    rw [ahead] at split layout clear
    obtain rfl : (cursor.skipLayout.advance (c :: cs).length).rest = left := by
      rw [Cursor.rest_advance, front, List.drop_left]
    exact .inr ⟨gap, c, cs, _, split, layout, clear, taken, ends, next⟩

theorem Lexer.items_of_told (cursor : Cursor) : (Lexer.mk cursor true).items = [] := by
  rw [items_eq]
  rfl

theorem Lexer.yields_items (cursor : Cursor) : Yields cursor.rest cursor.line (Lexer.mk cursor false).items := by
  rcases next?_step cursor with ⟨layout, stop, -, next⟩ | ⟨gap, c, cs, stop, takes⟩
  · rw [items_eq, next]
    dsimp only
    rw [items_of_told]
    exact .finish layout
  · have shorter := takes.shorter
    have more := yields_items stop
    rw [takes.line] at more
    rw [items_eq, takes.next, takes.split]
    dsimp only
    rw [takes.line]
    exact .item takes.layout takes.clear takes.taken more
termination_by cursor.rest.length

namespace Yields

variable {text other : List Char} {line : Nat} {items others : List (Except LexicalError Token)}

theorem unique (first : Yields text line items) (second : Yields text line others) : others = items := by
  induction first generalizing others with
  | @finish gap line layout =>
    generalize same : gap = text at second
    cases second with
    | finish => rfl
    | item layouts clears =>
      rw [← List.append_nil gap] at same
      cases layout.unique clear_nil layouts clears same
  | @item gap cs left c line items layout clear taken more ih =>
    generalize same : gap ++ c :: (cs ++ left) = text at second
    cases second with
    | finish layouts =>
      rw [← List.append_nil text] at same
      cases layout.unique clear layouts clear_nil same
    | @item gapOther csOther leftOther cOther _ _ layouts clears takenOther moreOther =>
      have ahead := layout.unique clear layouts clears same
      obtain ⟨rfl, rest⟩ := List.cons.inj ahead
      rw [← rest, taken] at takenOther
      obtain ⟨-, rfl⟩ := List.cons.inj takenOther
      obtain rfl := List.append_cancel_left rest
      obtain rfl := List.append_cancel_right same
      rw [ih moreOther]

theorem ne_nil (yields : Yields text line items) : items ≠ [] := by
  cases yields <;> exact List.cons_ne_nil _ _

theorem nil (line : Nat) : Yields [] line [.ok (.finish line)] := .finish .nil

theorem behind {gap : List Char} (layout : Gap gap text) (yields : Yields text (line + gap.count '\n') items) :
    Yields (gap ++ text) line items := by
  generalize start : line + gap.count '\n' = from' at yields
  cases yields with
  | finish more =>
    rw [← start, Nat.add_assoc, ← List.count_append]
    exact .finish (Gap.append (by rwa [List.append_nil]) more)
  | item more clear taken later =>
    rw [← start, Nat.add_assoc, ← List.count_append, ← List.append_assoc] at later ⊢
    rw [← List.append_assoc]
    exact .item (layout.append more) clear taken later

theorem item_resembling {gap cs left other : List Char} {c : Char} (layout : Gap gap (c :: (cs ++ left)))
    (clear : Clear (c :: (cs ++ left))) (taken : (ofText c (cs ++ left)).taken = c :: cs)
    (unclosed : (ofText c (cs ++ left)).result = .error .unterminatedString → other = left)
    (same : Resembles left other) (more : Yields other (line + (gap ++ c :: cs).count '\n') items) :
    Yields (gap ++ c :: (cs ++ other)) line
      ((ofText c (cs ++ left)).item (line + (gap ++ c :: cs).count '\n') :: items) := by
  have read : ofText c (cs ++ other) = ofText c (cs ++ left) := by
    by_cases fault : (ofText c (cs ++ left)).result = .error .unterminatedString
    · rw [unclosed fault]
    · exact ofText_resembling clear.2 fault taken same
  rw [← read] at taken ⊢
  refine .item (layout.before ?_) (clear.resembling (same.append cs)) taken more
  rintro (none | newline)
  · cases none
  · exact .inr newline

end Yields

def revised (token : Token → Token) (error : LexicalError → LexicalError) :
    Except LexicalError Token → Except LexicalError Token
  | .ok t => .ok (token t)
  | .error e => .error (error e)

def Token.lowered (lines : Nat) (t : Token) : Token := { t with line := t.line + lines }

def LexicalError.lowered (lines : Nat) (e : LexicalError) : LexicalError := { e with line := e.line + lines }

def lowered (lines : Nat) : Except LexicalError Token → Except LexicalError Token :=
  revised (.lowered lines) (.lowered lines)

theorem Reading.item_lowered (r : Reading) (line lines : Nat) :
    lowered lines (r.item line) = r.item (line + lines) := by
  unfold item
  cases r.result <;> rfl

theorem Yields.lowered {text : List Char} {line : Nat} {items : List (Except LexicalError Token)}
    (yields : Yields text line items) (lines : Nat) : Yields text (line + lines) (items.map (lowered lines)) := by
  induction yields with
  | @finish gap line layout =>
    have told : Reckon.lowered lines (.ok (.finish (line + gap.count '\n'))) =
        .ok (.finish (line + lines + gap.count '\n')) := by
      rw [Nat.add_right_comm]
      rfl
    rw [List.map_singleton, told]
    exact .finish layout
  | item layout clear taken _ ih =>
    rw [Nat.add_right_comm] at ih
    rw [List.map_cons, Reading.item_lowered, Nat.add_right_comm]
    exact .item layout clear taken ih

theorem Lexer.yields_ofText (source : String) : Yields source.toList 1 (Lexer.ofText source).items :=
  yields_items (.ofText source)

theorem Lexer.items_of_yields {source : String} {items : List (Except LexicalError Token)}
    (yields : Yields source.toList 1 items) : (Lexer.ofText source).items = items :=
  yields.unique (yields_ofText source)

theorem Lexer.items_end (source : String) :
    ∃ front, (Lexer.ofText source).items = front ++ [.ok (.finish (1 + source.toList.count '\n'))] := by
  obtain ⟨stretches, -, -, items⟩ := items_cover (.ofText source)
  exact ⟨_, items⟩

namespace Scan

def error? : Except LexicalError Token → Option LexicalError
  | .ok _ => none
  | .error e => some e

theorem tokens_eq (source : String) :
    (ofText source).tokens = (Lexer.ofText source).items.filterMap Except.toOption := by
  simp only [ofText]
  congr 1
  funext item
  cases item <;> rfl

theorem errors_eq (source : String) : (ofText source).errors = (Lexer.ofText source).items.filterMap error? := rfl

theorem filterMap_toOption_revised (token : Token → Token) (error : LexicalError → LexicalError)
    (items : List (Except LexicalError Token)) :
    (items.map (revised token error)).filterMap Except.toOption = (items.filterMap Except.toOption).map token := by
  rw [List.filterMap_map, List.map_filterMap]
  congr 1
  funext item
  cases item <;> rfl

theorem filterMap_error?_revised (token : Token → Token) (error : LexicalError → LexicalError)
    (items : List (Except LexicalError Token)) :
    (items.map (revised token error)).filterMap error? = (items.filterMap error?).map error := by
  rw [List.filterMap_map, List.map_filterMap]
  congr 1
  funext item
  cases item <;> rfl

theorem mem_errors_iff {source : String} {e : LexicalError} :
    e ∈ (ofText source).errors ↔ .error e ∈ (Lexer.ofText source).items := by
  rw [errors_eq, List.mem_filterMap]
  constructor
  · rintro ⟨item, member, told⟩
    cases item with
    | ok t => cases told
    | error other =>
      cases told
      exact member
  · intro member
    exact ⟨_, member, rfl⟩

end Scan

end Reckon
