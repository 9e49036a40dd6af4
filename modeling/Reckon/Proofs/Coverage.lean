import Reckon.Proofs.Scanning

namespace Reckon

namespace Cursor

theorem line_next (c : Cursor) : c.next.line = c.line + (c.rest.take 1).count '\n' := by
  unfold next
  split
  · rename_i ahead
    simp [ahead]
  · rename_i ch rest ahead
    by_cases newline : ch = '\n' <;> simp [ahead, newline]

theorem line_advance (c : Cursor) (count : Nat) :
    (c.advance count).line = c.line + (c.rest.take count).count '\n' := by
  induction count generalizing c with
  | zero => simp [advance]
  | succ count ih =>
    rw [advance, ih, line_next, rest_next, Nat.add_assoc, ← List.count_append]
    cases c.rest <;> simp

theorem line_advance_of_append {c : Cursor} {text rest : List Char} (split : c.rest = text ++ rest) :
    (c.advance text.length).line = c.line + text.count '\n' := by
  rw [line_advance, split, List.take_left]

end Cursor

/-- The characters that an item stands for, with the line on which they end. -/
inductive Tells : List Char → Nat → Except LexicalError Token → Prop
  | token {t : Token} (some : t.lexeme ≠ "") (going : t.isFinish = false) : Tells t.lexeme.toList t.line (.ok t)
  | unexpected {c : Char} {line : Nat} : Tells [c] line (.error ⟨.unexpectedCharacter c, line⟩)
  | unterminated {body : List Char} {line : Nat} (unclosed : '"' ∉ body) :
      Tells ('"' :: body) line (.error ⟨.unterminatedString, line⟩)

theorem Tells.ne_nil {taken : List Char} {line : Nat} {item : Except LexicalError Token}
    (tells : Tells taken line item) : taken ≠ [] := by
  cases tells with
  | token some => simpa using some
  | unexpected => exact List.cons_ne_nil _ _
  | unterminated => exact List.cons_ne_nil _ _

namespace Reading

def item (r : Reading) (line : Nat) : Except LexicalError Token :=
  match r.result with
  | .ok symbol => .ok ⟨symbol, String.ofList r.taken, line⟩
  | .error fault => .error ⟨fault, line⟩

theorem notMem_of_unterminated {rest : List Char}
    (read : (ofText '"' rest).result = .error .unterminatedString) : '"' ∉ rest := by
  intro member
  obtain ⟨body, after, rfl, closed⟩ := List.eq_append_cons_of_mem member
  rw [ofText_quote, string_closed _ closed] at read
  cases read

theorem tells_ofText (c : Char) (rest : List Char) (line : Nat) :
    Tells (ofText c rest).taken line ((ofText c rest).item line) := by
  cases read : (ofText c rest).result with
  | ok symbol =>
    have lexeme := (Lexeme.of_ofText read).1
    have told := Tells.token (t := ⟨symbol, String.ofList (ofText c rest).taken, line⟩)
      (by simpa using lexeme.ne_nil) (by simpa [Token.isFinish] using lexeme.ne_finish)
    rw [String.toList_ofList] at told
    simpa only [item, read] using told
  | error fault =>
    rcases Lexeme.of_fault read with ⟨rfl, taken⟩ | ⟨other, taken⟩
    · rw [taken] at read
      cases read
      have unclosed := notMem_of_unterminated (congrArg result taken)
      rw [taken]
      exact .unterminated unclosed
    · rw [taken]
      exact .unexpected

theorem split_ofText (c : Char) (rest : List Char) : ∃ left, c :: rest = (ofText c rest).taken ++ left ∧
    ∀ line n, (ofText c rest).item line = .error ⟨.unterminatedString, n⟩ → left = [] := by
  cases read : (ofText c rest).result with
  | ok symbol =>
    obtain ⟨-, left, split⟩ := Lexeme.of_ofText read
    refine ⟨left, split.symm, ?_⟩
    intro line n fault
    simp [item, read] at fault
  | error fault =>
    rcases Lexeme.of_fault read with ⟨rfl, taken⟩ | ⟨other, taken⟩
    · exact ⟨[], by rw [taken, List.append_nil], fun _ _ _ => rfl⟩
    · refine ⟨rest, by rw [taken]; rfl, ?_⟩
      intro line n told
      simp [item, taken] at told

end Reading

structure Stretch where
  layout : List Char
  taken : List Char
  item : Except LexicalError Token

def Stretch.text (s : Stretch) : List Char := s.layout ++ s.taken

/-- A text that starts on a line is made up of some stretches and layout behind the last. -/
structure Covers (text : List Char) (line : Nat) (stretches : List Stretch) (last : List Char) : Prop where
  whole : text = stretches.flatMap Stretch.text ++ last
  closing : Gap last []
  gaps : ∀ front s back, stretches = front ++ s :: back →
    Gap s.layout (s.taken ++ (back.flatMap Stretch.text ++ last))
  tells : ∀ front s back, stretches = front ++ s :: back →
    Tells s.taken (line + (front.flatMap Stretch.text ++ s.text).count '\n') s.item
  unterminated : ∀ front s back n, stretches = front ++ s :: back → s.item = .error ⟨.unterminatedString, n⟩ →
    back = [] ∧ last = []

namespace Covers

theorem nil {last : List Char} (line : Nat) (closing : Gap last []) : Covers last line [] last where
  whole := rfl
  closing := closing
  gaps := by simp
  tells := by simp
  unterminated := by simp

theorem cons {rest last : List Char} {line : Nat} {stretches : List Stretch} {s : Stretch}
    (gap : Gap s.layout (s.taken ++ rest)) (told : Tells s.taken (line + s.text.count '\n') s.item)
    (ends : ∀ n, s.item = .error ⟨.unterminatedString, n⟩ → rest = [])
    (covers : Covers rest (line + s.text.count '\n') stretches last) :
    Covers (s.text ++ rest) line (s :: stretches) last := by
  obtain ⟨whole, closing, gaps, tells, unterminated⟩ := covers
  refine ⟨by rw [whole, List.flatMap_cons, List.append_assoc], closing, ?_, ?_, ?_⟩
  · intro front t back split
    rcases List.cons_eq_append_iff.mp split with ⟨rfl, same⟩ | ⟨more, rfl, later⟩
    · cases same
      rw [← whole]
      exact gap
    · exact gaps more t back later
  · intro front t back split
    rcases List.cons_eq_append_iff.mp split with ⟨rfl, same⟩ | ⟨more, rfl, later⟩
    · cases same
      exact told
    · have first := tells more t back later
      rwa [Nat.add_assoc, ← List.count_append, ← List.append_assoc, ← List.flatMap_cons] at first
  · intro front t back n split fault
    rcases List.cons_eq_append_iff.mp split with ⟨rfl, same⟩ | ⟨more, rfl, later⟩
    · cases same
      have none := ends n fault
      rw [whole, List.append_eq_nil_iff] at none
      refine ⟨?_, none.2⟩
      cases stretches with
      | nil => rfl
      | cons u later =>
        have taken := (tells [] u later rfl).ne_nil
        simp [Stretch.text, taken] at none
    · exact unterminated more t back n later fault

theorem length_le {text last : List Char} {line : Nat} {stretches : List Stretch}
    (covers : Covers text line stretches last) : stretches.length ≤ text.length := by
  have some : ∀ s ∈ stretches, 1 ≤ s.text.length := by
    intro s member
    obtain ⟨front, back, split⟩ := List.append_of_mem member
    have taken := List.length_pos_iff.mpr (covers.tells front s back split).ne_nil
    rw [Stretch.text, List.length_append]
    omega
  rw [covers.whole, List.length_append, List.length_flatMap]
  have sum : stretches.length ≤ (stretches.map fun s => s.text.length).sum := by
    clear covers
    induction stretches with
    | nil => exact Nat.le_refl _
    | cons s stretches ih =>
      have first := some s List.mem_cons_self
      have rest := ih fun t member => some t (List.mem_cons_of_mem _ member)
      simp only [List.length_cons, List.map_cons, List.sum_cons]
      omega
  omega

end Covers

namespace Lexer

def after (l : Lexer) : Nat → Lexer
  | 0 => l
  | count + 1 =>
    match l.next? with
    | none => l
    | some (_, next) => next.after count

def answer? (l : Lexer) (index : Nat) : Option (Except LexicalError Token) :=
  (l.after index).next?.map Prod.fst

theorem answer?_eq (l : Lexer) (index : Nat) : l.answer? index = l.items[index]? := by
  induction index generalizing l with
  | zero =>
    rw [items_eq, answer?, after]
    cases l.next? <;> rfl
  | succ index ih =>
    rw [items_eq, answer?, after]
    cases more : l.next? with
    | none => simp [more]
    | some answer => exact ih answer.2

theorem next?_eq {cursor : Cursor} {c : Char} {rest : List Char} (ahead : cursor.skipLayout.rest = c :: rest) :
    let stop := cursor.skipLayout.advance (Reading.ofText c rest).taken.length
    (Lexer.mk cursor false).next? = some ((Reading.ofText c rest).item stop.line, ⟨stop, false⟩) := by
  cases read : (Reading.ofText c rest).result <;>
    simp only [next?, ahead, Reading.item, read, Bool.false_eq_true, ↓reduceIte]

theorem next?_tells {cursor : Cursor} (more : cursor.skipLayout.rest ≠ []) :
    ∃ taken left item stop, cursor.skipLayout.rest = taken ++ left ∧
      (Lexer.mk cursor false).next? = some (item, ⟨stop, false⟩) ∧ stop.rest = left ∧
      stop.line = cursor.skipLayout.line + taken.count '\n' ∧ Tells taken stop.line item ∧
      ∀ n, item = .error ⟨.unterminatedString, n⟩ → left = [] := by
  obtain ⟨c, rest, ahead⟩ := List.exists_cons_of_ne_nil more
  obtain ⟨left, split, ends⟩ := Reading.split_ofText c rest
  rw [← ahead] at split
  exact ⟨_, left, _, _, split, next?_eq ahead, by rw [Cursor.rest_advance, split, List.drop_left],
    Cursor.line_advance_of_append split, Reading.tells_ofText c rest _, ends _⟩

theorem items_cover (cursor : Cursor) : ∃ stretches last, Covers cursor.rest cursor.line stretches last ∧
    (Lexer.mk cursor false).items =
      stretches.map Stretch.item ++ [.ok (.finish (cursor.line + cursor.rest.count '\n'))] := by
  obtain ⟨gap, skipped, split, layout, -⟩ := cursor.skipLayout_gap
  have line : cursor.skipLayout.line = cursor.line + gap.count '\n' := by
    rw [skipped]
    exact Cursor.line_advance_of_append split
  by_cases none : cursor.skipLayout.rest = []
  · rw [none, List.append_nil] at split
    rw [none] at layout
    refine ⟨[], gap, by rw [split]; exact .nil _ layout, ?_⟩
    have ending : (Lexer.mk cursor false).next? =
        some (.ok (.finish cursor.skipLayout.line), ⟨cursor.skipLayout, true⟩) := by simp [next?, none]
    have silent : (Lexer.mk cursor.skipLayout true).items = [] := by rw [items_eq]; rfl
    rw [items_eq, ending, split, ← line]
    exact congrArg (List.cons _) silent
  · obtain ⟨taken, left, item, stop, ahead, next, rest, ends, tells, unterminated⟩ := next?_tells none
    have shorter : stop.rest.length < cursor.rest.length := by
      have some := List.length_pos_iff.mpr tells.ne_nil
      rw [split, ahead, rest, List.length_append, List.length_append]
      omega
    obtain ⟨stretches, last, covers, items⟩ := items_cover stop
    have text : (Stretch.mk gap taken item).text = gap ++ taken := rfl
    have count : stop.line = cursor.line + (gap ++ taken).count '\n' := by
      rw [ends, line, List.count_append, Nat.add_assoc]
    have whole : cursor.rest = (Stretch.mk gap taken item).text ++ left := by
      rw [split, ahead, text, List.append_assoc]
    refine ⟨⟨gap, taken, item⟩ :: stretches, last, ?_, ?_⟩
    · rw [whole]
      rw [ahead] at layout
      rw [rest, count] at covers
      rw [count] at tells
      exact .cons layout tells unterminated covers
    · have newlines : cursor.line + cursor.rest.count '\n' = stop.line + stop.rest.count '\n' := by
        rw [count, rest, whole, text, List.count_append, Nat.add_assoc]
      rw [items_eq, next, newlines]
      exact congrArg (List.cons item) items
termination_by cursor.rest.length

end Lexer

namespace Scan

def gather : List Token × Diagnostics → Except LexicalError Token → List Token × Diagnostics
  | (tokens, collected), .ok token => (tokens ++ [token], collected)
  | (tokens, collected), .error e => (tokens, collected.report e.diagnostic)

theorem gather_items (items : List (Except LexicalError Token)) (tokens : List Token) (collected : Diagnostics) :
    items.foldl gather (tokens, collected) =
      (tokens ++ items.filterMap (fun
          | .ok token => some token
          | .error _ => none),
        collected ++ (items.filterMap (fun
          | .ok _ => none
          | .error e => some e)).map LexicalError.diagnostic) := by
  induction items generalizing tokens collected with
  | nil => simp
  | cons item items ih =>
    rw [List.foldl_cons]
    cases item with
    | ok token => simp [gather, ih]
    | error e => simp [gather, ih, Diagnostics.report]

/-- A text is covered by the items that the calls of a scan tell one after the other, of which the last is its end,
told on its last line. Reporting the errors among them adds the diagnostics of the scan to those collected before. -/
theorem covers_text (source : String) : ∃ stretches last, Covers source.toList 1 stretches last ∧
    stretches.length ≤ source.length ∧
    (∀ index, (Lexer.ofText source).answer? index =
      (stretches.map Stretch.item ++ [.ok (.finish (1 + source.toList.count '\n'))])[index]?) ∧
    ∀ collected : Diagnostics,
      (stretches.map Stretch.item ++ [Except.ok (Token.finish (1 + source.toList.count '\n'))]).foldl gather
        ([], collected) = ((ofText source).tokens, collected ++ (ofText source).diagnostics) := by
  obtain ⟨stretches, last, covers, items⟩ := Lexer.items_cover (.ofText source)
  have same : (Lexer.ofText source).items =
      stretches.map Stretch.item ++ [.ok (.finish (1 + source.toList.count '\n'))] := items
  refine ⟨stretches, last, covers, ?_, ?_, ?_⟩
  · rw [← String.length_toList]
    exact covers.length_le
  · intro index
    rw [Lexer.answer?_eq, same]
  · intro collected
    rw [← same, gather_items, List.nil_append]
    rfl

end Scan

end Reckon
