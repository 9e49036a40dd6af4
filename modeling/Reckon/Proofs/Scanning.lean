import Reckon.Proofs.Lexemes
import Reckon.Token.Lexer

namespace Reckon

/-- Layout in front of a text: spaces and comments, each of which runs up to a line end or the end of all. -/
inductive Gap : List Char → List Char → Prop
  | nil {rest : List Char} : Gap [] rest
  | space {c : Char} {gap rest : List Char} (space : isSpace c = true) (more : Gap gap rest) : Gap (c :: gap) rest
  | comment {body gap rest : List Char} (line : '\n' ∉ body)
      (ends : gap ++ rest = [] ∨ (gap ++ rest).head? = some '\n') (more : Gap gap rest) :
      Gap ('/' :: '/' :: (body ++ gap)) rest

def Clear (ahead : List Char) : Prop := startsSpace ahead = false ∧ startsComment ahead = false

/-- What the text behind the layout comes to, with the text left after it. -/
inductive Decides (ahead : List Char) : Except LexicalError Token → List Char → Prop
  | finish {line : Nat} (none : ahead = []) : Decides ahead (.ok (.finish line)) []
  | token {token : Token} {left : List Char} (split : ahead = token.lexeme.toList ++ left)
      (longest : Longest ahead token.lexeme.toList token.symbol) : Decides ahead (.ok token) left
  | unterminated {line : Nat} {rest : List Char} (quote : ahead = '"' :: rest)
      (none : ∀ text s, text <+: ahead → ¬ Lexeme text s) :
      Decides ahead (.error ⟨.unterminatedString, line⟩) []
  | unexpected {line : Nat} {c : Char} {rest : List Char} (first : ahead = c :: rest) (other : c ≠ '"')
      (none : ∀ text s, text <+: ahead → ¬ Lexeme text s) :
      Decides ahead (.error ⟨.unexpectedCharacter c, line⟩) rest

abbrev Content := Except LexicalFault (Symbol × String)

def content : Except LexicalError Token → Content
  | .ok token => .ok (token.symbol, token.lexeme)
  | .error e => .error e.fault

theorem spans_line {body rest : List Char} (line : '\n' ∉ body) (ends : rest = [] ∨ rest.head? = some '\n') :
    Reading.Spans (· != '\n') body rest := by
  constructor
  · intro c member
    rw [bne_iff_ne]
    rintro rfl
    exact line member
  · rintro c after rfl
    rcases ends with none | first
    · cases none
    · cases first
      rfl

theorem startsComment_iff {text : List Char} : startsComment text = true ↔ ∃ rest, text = '/' :: '/' :: rest := by
  constructor
  · intro comment
    unfold startsComment at comment
    split at comment
    · exact ⟨_, rfl⟩
    · cases comment
  · rintro ⟨rest, rfl⟩
    rfl

theorem clear_iff {ahead : List Char} : Clear ahead ↔
    (∀ c rest, ahead = c :: rest → c ∉ [' ', '\r', '\t', '\n']) ∧ ∀ rest, ahead ≠ '/' :: '/' :: rest := by
  refine and_congr ?_ ?_
  · cases ahead with
    | nil => simp [startsSpace]
    | cons c rest => rw [startsSpace, Bool.eq_false_iff, ne_eq, isSpace_iff]; simp
  · rw [Bool.eq_false_iff, ne_eq, startsComment_iff, not_exists]

theorem Gap.eq_nil {gap rest : List Char} (layout : Gap gap rest) (clear : Clear (gap ++ rest)) : gap = [] := by
  obtain ⟨spaceless, commentless⟩ := clear
  cases layout with
  | nil => rfl
  | space space =>
    rw [List.cons_append, startsSpace, space] at spaceless
    cases spaceless
  | comment => cases commentless

theorem Gap.unique {gap other ahead behind : List Char} (first : Gap gap ahead) (clear : Clear ahead)
    (second : Gap other behind) (clears : Clear behind) (same : gap ++ ahead = other ++ behind) :
    ahead = behind := by
  induction first generalizing other with
  | nil =>
    rw [List.nil_append] at same
    have none := second.eq_nil (same ▸ clear)
    rw [same, none, List.nil_append]
  | space space more ih =>
    cases second with
    | nil => cases (Gap.space space more).eq_nil (same ▸ clears)
    | space spaces mores => exact ih clear mores (List.cons.inj same).2
    | comment line ends mores =>
      cases (List.cons.inj same).1
      exact absurd space (by decide)
  | comment line ends more ih =>
    cases second with
    | nil => cases (Gap.comment line ends more).eq_nil (same ▸ clears)
    | space spaces mores =>
      cases (List.cons.inj same).1
      exact absurd spaces (by decide)
    | comment lines ending mores =>
      -- Both comments run up to the same line end, so their bodies are the same.
      simp only [List.cons_append, List.append_assoc, List.cons.injEq, true_and] at same
      have left := (spans_line line ends).dropWhile_eq
      rw [same, (spans_line lines ending).dropWhile_eq] at left
      exact ih clear mores left.symm

theorem Decides.unique {ahead left behind : List Char} {item other : Except LexicalError Token}
    (first : Decides ahead item left) (second : Decides ahead other behind) :
    content other = content item ∧ behind = left := by
  cases first with
  | finish none =>
    subst none
    cases second with
    | finish => exact ⟨rfl, rfl⟩
    | token _ longest => exact absurd longest Longest.not_nil
    | unterminated quote => cases quote
    | unexpected start => cases start
  | token split longest =>
    cases second with
    | finish none =>
      subst none
      exact absurd longest Longest.not_nil
    | token splits again =>
      obtain ⟨lexeme, symbol⟩ := longest.unique again
      rw [split, lexeme] at splits
      refine ⟨?_, (List.append_cancel_left splits).symm⟩
      rw [content, content, symbol, String.toList_inj.mp lexeme]
    | unterminated _ none => exact absurd longest.lexeme (none _ _ longest.starts)
    | unexpected _ _ none => exact absurd longest.lexeme (none _ _ longest.starts)
  | unterminated quote none =>
    subst quote
    cases second with
    | finish nil => cases nil
    | token _ longest => exact absurd longest.lexeme (none _ _ longest.starts)
    | unterminated => exact ⟨rfl, rfl⟩
    | unexpected start other =>
      cases start
      exact absurd rfl other
  | unexpected start other none =>
    subst start
    cases second with
    | finish nil => cases nil
    | token _ longest => exact absurd longest.lexeme (none _ _ longest.starts)
    | unterminated quote =>
      cases quote
      exact absurd rfl other
    | unexpected again =>
      cases again
      exact ⟨rfl, rfl⟩

namespace Cursor

theorem advance_advance (c : Cursor) (first second : Nat) :
    (c.advance first).advance second = c.advance (first + second) := by
  induction first generalizing c with
  | zero => rw [advance, Nat.zero_add]
  | succ first ih => rw [advance, ih, Nat.add_right_comm, advance]

theorem skipLayout_gap (c : Cursor) : ∃ gap, c.skipLayout = c.advance gap.length ∧
    c.rest = gap ++ c.skipLayout.rest ∧ Gap gap c.skipLayout.rest ∧ Clear c.skipLayout.rest := by
  fun_induction skipLayout c with
  | case1 c space ih =>
    obtain ⟨gap, same, split, layout, clear⟩ := ih
    obtain ⟨ch, rest, ahead⟩ : ∃ ch rest, c.rest = ch :: rest := by
      cases ahead : c.rest with
      | nil => rw [ahead] at space; cases space
      | cons ch rest => exact ⟨ch, rest, rfl⟩
    rw [ahead] at space
    rw [rest_next, ahead, List.tail_cons] at split
    refine ⟨ch :: gap, ?_, ?_, .space space layout, clear⟩
    · rw [same]; rfl
    · rw [ahead, split, List.cons_append]
  | case2 c _ comment ih =>
    obtain ⟨gap, same, split, layout, clear⟩ := ih
    obtain ⟨rest, ahead⟩ := startsComment_iff.mp comment
    have spans := Reading.spans_takeWhile (· != '\n') rest
    have whole := List.takeWhile_append_dropWhile (p := (· != '\n')) (l := rest)
    have taken : c.rest.takeWhile (· != '\n') = '/' :: '/' :: rest.takeWhile (· != '\n') := by rw [ahead]; rfl
    have left : c.rest.dropWhile (· != '\n') = rest.dropWhile (· != '\n') := by rw [ahead]; rfl
    rw [rest_advanceWhile, left] at split
    refine ⟨'/' :: '/' :: (rest.takeWhile (· != '\n') ++ gap), ?_, ?_, .comment ?_ ?_ layout, clear⟩
    · rw [same, advanceWhile, advance_advance, taken]
      simp only [List.length_cons, List.length_append]
      congr 1
      omega
    · rw [ahead, List.cons_append, List.cons_append, List.append_assoc, ← split, whole]
    · intro member
      exact absurd (spans.all _ member) (by decide)
    · rw [← split]
      cases more : rest.dropWhile (· != '\n') with
      | nil => exact .inl rfl
      | cons d after =>
        have newline := spans.ends d after more
        rw [bne_eq_false_iff_eq] at newline
        exact .inr (congrArg some newline)
  | case3 c space comment =>
    exact ⟨[], rfl, rfl, .nil, Bool.eq_false_iff.mpr space, Bool.eq_false_iff.mpr comment⟩

end Cursor

theorem Lexer.next?_decides (cursor : Cursor) : ∃ item next, (Lexer.mk cursor false).next? = some (item, next) ∧
    Decides cursor.skipLayout.rest item next.cursor.rest ∧ (next.told = true ↔ cursor.skipLayout.rest = []) := by
  cases ahead : cursor.skipLayout.rest with
  | nil =>
    refine ⟨.ok (.finish cursor.skipLayout.line), ⟨cursor.skipLayout, true⟩, ?_, ?_, by simp⟩
    · simp [next?, ahead]
    · simp only [ahead]
      exact .finish rfl
  | cons c rest =>
    have left : (cursor.skipLayout.advance (Reading.ofText c rest).taken.length).rest =
        (c :: rest).drop (Reading.ofText c rest).taken.length := by rw [Cursor.rest_advance, ahead]
    cases read : (Reading.ofText c rest).result with
    | ok symbol =>
      have longest := longest_of_ofText read
      refine ⟨_, _, by simp only [next?, ahead, read]; rfl, ?_, by simp⟩
      refine .token ?_ (by rwa [String.toList_ofList])
      rw [String.toList_ofList, left]
      exact (List.prefix_iff_eq_append.mp longest.starts).symm
    | error fault =>
      have none := not_lexeme_of_fault read
      refine ⟨_, _, by simp only [next?, ahead, read]; rfl, ?_, by simp⟩
      rw [left]
      rcases Lexeme.of_fault read with ⟨rfl, taken⟩ | ⟨other, taken⟩
      · rw [taken] at read ⊢
        cases read
        rw [List.drop_length]
        exact .unterminated rfl none
      · rw [taken] at read ⊢
        cases read
        exact .unexpected rfl other none

namespace Lexer

/-- At every point of a scan the next item is the one that the longest lexeme behind the layout decides, and the
text there decides it alone. -/
theorem scans_longest_match (cursor : Cursor) : ∃ gap ahead item next,
    cursor.rest = gap ++ ahead ∧ Gap gap ahead ∧ Clear ahead ∧
      (∀ other behind, cursor.rest = other ++ behind → Gap other behind → Clear behind → behind = ahead) ∧
      (Lexer.mk cursor false).next? = some (item, next) ∧ (next.told = true ↔ ahead = []) ∧
      Decides ahead item next.cursor.rest ∧
      ∀ other left, Decides ahead other left → content other = content item ∧ left = next.cursor.rest := by
  obtain ⟨gap, -, split, layout, clear⟩ := cursor.skipLayout_gap
  obtain ⟨item, next, told, decides, ended⟩ := next?_decides cursor
  refine ⟨gap, _, item, next, split, layout, clear, ?_, told, ended, decides, ?_⟩
  · intro other behind same layouts clears
    rw [split] at same
    exact (layout.unique clear layouts clears same).symm
  · intro other left others
    exact decides.unique others

theorem collect_append (l : Lexer) (found : Array (Except LexicalError Token)) (count : Nat) :
    l.collect found count = found.toList ++ l.collect #[] count := by
  induction count generalizing l found with
  | zero => simp [collect]
  | succ count ih =>
    simp only [collect]
    split
    · simp
    · rename_i item next _
      rw [ih next (found.push item), ih next (#[].push item)]
      simp

theorem collect_enough {l : Lexer} {few many : Nat} (first : l.pending ≤ few) (second : l.pending ≤ many) :
    l.collect #[] few = l.collect #[] many := by
  induction few generalizing l many with
  | zero =>
    cases many with
    | zero => rfl
    | succ many =>
      cases more : l.next? with
      | none => simp [collect, more]
      | some answer =>
        have fewer := pending_next? (more : l.next? = some (answer.1, answer.2))
        omega
  | succ few ih =>
    cases more : l.next? with
    | none => cases many <;> simp [collect, more]
    | some answer =>
      have fewer := pending_next? (more : l.next? = some (answer.1, answer.2))
      obtain ⟨many, rfl⟩ : ∃ rest, many = rest + 1 := ⟨many - 1, by omega⟩
      have rest : answer.2.collect #[] few = answer.2.collect #[] many := ih (by omega) (by omega)
      simp only [collect, more]
      rw [collect_append, rest, ← collect_append]

theorem items_eq (l : Lexer) : l.items = match l.next? with
    | none => []
    | some (item, next) => item :: next.items := by
  rw [items, collect_enough (Nat.le_refl _) (Nat.le_succ _)]
  cases more : l.next? with
  | none => simp [collect, more]
  | some answer =>
    have fewer := pending_next? (more : l.next? = some (answer.1, answer.2))
    simp only [collect, more]
    rw [collect_append, collect_enough (Nat.le_of_lt fewer) (Nat.le_refl _), items]
    rfl

end Lexer

/-- What the items of a whole scan come to: one behind each layout, up to the end of the text. -/
inductive Scans : List Char → List Content → Prop
  | finish {gap : List Char} (layout : Gap gap []) : Scans gap [.ok (.finish, "")]
  | item {gap ahead left : List Char} {item : Except LexicalError Token}
      {items : List Content} (layout : Gap gap ahead) (clear : Clear ahead)
      (more : ahead ≠ []) (decides : Decides ahead item left) (rest : Scans left items) :
      Scans (gap ++ ahead) (content item :: items)

theorem clear_nil : Clear [] := ⟨rfl, rfl⟩

theorem Scans.unique {text : List Char} {items others : List Content}
    (first : Scans text items) (second : Scans text others) : others = items := by
  induction first generalizing others with
  | @finish gap layout =>
    generalize same : gap = text at second
    cases second with
    | finish => rfl
    | item layouts clears more =>
      rw [← List.append_nil gap] at same
      exact absurd (layout.unique clear_nil layouts clears same).symm more
  | @item gap ahead _ _ _ layout clear more decides _ ih =>
    generalize same : gap ++ ahead = text at second
    cases second with
    | finish layouts =>
      rw [← List.append_nil text] at same
      exact absurd (layout.unique clear layouts clear_nil same) more
    | item layouts clears _ others rest =>
      obtain rfl := layout.unique clear layouts clears same
      obtain ⟨items, rfl⟩ := decides.unique others
      rw [items, ih rest]

theorem Decides.shorter {ahead left : List Char} {item : Except LexicalError Token}
    (decides : Decides ahead item left) (more : ahead ≠ []) : left.length < ahead.length := by
  cases decides with
  | finish none => exact absurd none more
  | token split longest =>
    have some := List.length_pos_iff.mpr longest.lexeme.ne_nil
    rw [split, List.length_append]
    omega
  | unterminated quote => exact List.length_pos_iff.mpr more
  | unexpected first => simp [first]

theorem Lexer.scans_items (cursor : Cursor) :
    Scans cursor.rest ((Lexer.mk cursor false).items.map content) := by
  obtain ⟨gap, -, split, layout, clear⟩ := cursor.skipLayout_gap
  obtain ⟨item, ⟨stop, told⟩, next, decides, ended⟩ := next?_decides cursor
  rw [items_eq, next, List.map_cons]
  by_cases none : cursor.skipLayout.rest = []
  · rw [none] at split layout decides
    have silent : (Lexer.mk stop told).next? = .none := by rw [next?, if_pos (ended.mpr none)]
    have ending : content item = .ok (.finish, "") := ((@Decides.finish _ 0 rfl).unique decides).1
    rw [items_eq, silent, ending, split, List.append_nil]
    exact .finish layout
  · have going : told = false := Bool.eq_false_iff.mpr fun ends => none (ended.mp ends)
    subst going
    have shorter : stop.rest.length < cursor.rest.length :=
      Nat.lt_of_lt_of_le (decides.shorter none) cursor.skipLayout_suffix.length_le
    rw [split]
    exact .item layout clear none decides (scans_items stop)
termination_by cursor.rest.length

theorem ofText_space {c : Char} (space : isSpace c = true) (rest : List Char) :
    Reading.ofText c rest = ⟨[c], .error (.unexpectedCharacter c)⟩ := by
  have blank := isSpace_iff.mp space
  simp only [List.mem_cons, List.not_mem_nil, or_false] at blank
  rcases blank with rfl | rfl | rfl | rfl <;> rfl

theorem Lexeme.clear {text rest : List Char} {symbol : Symbol} (lexeme : Lexeme text symbol)
    (apart : symbol.Apart rest) : Clear (text ++ rest) := by
  obtain ⟨c, cs, same, read⟩ := lexeme.ofText_append apart
  rw [same, List.cons_append, clear_iff]
  constructor
  · rintro first after ahead space
    obtain ⟨rfl, -⟩ := List.cons.inj ahead
    rw [ofText_space (isSpace_iff.mpr space)] at read
    cases read
  · intro after slashes
    obtain ⟨rfl, behind⟩ := List.cons.inj slashes
    injection read with taken result
    rw [← taken] at same
    cases same
    cases result
    rw [List.nil_append] at behind
    exact apart (by rw [behind]; rfl)

namespace Scans

variable {text rest : List Char} {items : List Content}

theorem nil : Scans [] [.ok (.finish, "")] := .finish .nil

theorem space (scans : Scans rest items) : Scans (' ' :: rest) items := by
  cases scans with
  | finish layout => exact .finish (.space rfl layout)
  | item layout clear more decides later => exact .item (.space rfl layout) clear more decides later

theorem token {symbol : Symbol} (lexeme : Lexeme text symbol) (apart : symbol.Apart rest)
    (scans : Scans rest items) : Scans (text ++ rest) (.ok (symbol, String.ofList text) :: items) := by
  obtain ⟨c, cs, same, read⟩ := lexeme.ofText_append apart
  have longest : Longest (text ++ rest) text symbol := by
    have longest := longest_of_ofText (congrArg Reading.result read)
    rwa [read, ← List.cons_append, ← same] at longest
  have some : text ++ rest ≠ [] := by
    rw [same, List.cons_append]
    exact List.cons_ne_nil _ _
  have decides : Decides (text ++ rest) (.ok ⟨symbol, String.ofList text, 0⟩) rest :=
    .token (by rw [String.toList_ofList]) (by rwa [String.toList_ofList])
  exact .item .nil (lexeme.clear apart) some decides scans

end Scans

theorem Scans.ends {text : List Char} {items : List Content}
    (scans : Scans text items) : ∃ before, items = before ++ [.ok (.finish, "")] ∧
      ∀ symbol lexeme, .ok (symbol, lexeme) ∈ before → Lexeme lexeme.toList symbol := by
  induction scans with
  | finish => exact ⟨[], rfl, by simp⟩
  | @item gap ahead left item items _ _ more decides _ ih =>
    obtain ⟨before, same, lexemes⟩ := ih
    refine ⟨content item :: before, by rw [same, List.cons_append], ?_⟩
    intro symbol lexeme member
    rcases List.mem_cons.mp member with first | member
    · cases decides with
      | finish none => exact absurd none more
      | token _ longest =>
        cases first
        exact longest.lexeme
      | unterminated => cases first
      | unexpected => cases first
    · exact lexemes symbol lexeme member

def Token.spelled (t : Token) : Symbol × String := (t.symbol, t.lexeme)

namespace Scan

theorem scans_ofText (source : String) : Scans source.toList ((Lexer.ofText source).items.map content) :=
  Lexer.scans_items (.ofText source)

theorem tokens_ends (source : String) : ∃ front last, (ofText source).tokens = front ++ [last] ∧
    last.spelled = (.finish, "") ∧ ∀ t ∈ front, Lexeme t.lexeme.toList t.symbol := by
  obtain ⟨before, same, lexemes⟩ := (scans_ofText source).ends
  obtain ⟨first, lasts, split, rfl, ended⟩ := List.map_eq_append_iff.mp same
  obtain ⟨item, told, rfl⟩ : ∃ item, content item = .ok (.finish, "") ∧ lasts = [item] := by
    simpa [List.map_eq_singleton_iff, and_comm] using ended
  cases item with
  | error e => cases told
  | ok last =>
    have tokens : (ofText source).tokens = (first.filterMap fun
        | .ok token => some token
        | .error _ => none) ++ [last] := by
      simp only [ofText, split, List.filterMap_append]
      rfl
    refine ⟨_, last, tokens, Except.ok.inj told, ?_⟩
    intro t member
    obtain ⟨item, among, kept⟩ := List.mem_filterMap.mp member
    cases item with
    | error e => cases kept
    | ok token =>
      cases kept
      exact lexemes _ _ (List.mem_map_of_mem among)

theorem ofText_of_scans {source : String} {pairs : List (Symbol × String)}
    (scans : Scans source.toList (pairs.map .ok)) :
    (ofText source).errors = [] ∧ (ofText source).tokens.map Token.spelled = pairs := by
  have same := scans.unique (scans_ofText source)
  simp only [ofText]
  clear scans
  generalize (Lexer.ofText source).items = items at same
  induction items generalizing pairs with
  | nil =>
    rw [List.map_nil, eq_comm, List.map_eq_nil_iff] at same
    exact ⟨rfl, same.symm⟩
  | cons item items ih =>
    obtain ⟨pair, more, rfl, first, rest⟩ := List.map_eq_cons_iff.mp same.symm
    cases item with
    | error e => cases first
    | ok token =>
      obtain ⟨errors, tokens⟩ := ih rest.symm
      cases first
      exact ⟨errors, congrArg _ tokens⟩

end Scan

end Reckon
