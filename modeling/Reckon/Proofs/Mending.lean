import Reckon.Expr.Parser
import Reckon.Proofs.Yields

namespace Reckon

def isUnexpected : Except LexicalError Token → Bool
  | .error ⟨.unexpectedCharacter _, _⟩ => true
  | _ => false

def mendedBy (item : Except LexicalError Token) (passed : List Char) : List Char :=
  if isUnexpected item then passed.dropLast ++ [' '] else passed

namespace Lexer

/-- Some call tells that the character at a position of the text ahead is unexpected, and stops right behind it. -/
def Rejects (l : Lexer) (position : Nat) : Prop :=
  ∃ calls item stop, (l.after calls).next? = some (item, stop) ∧ isUnexpected item = true ∧
    position + 1 + stop.cursor.rest.length = l.cursor.rest.length

/-- The text ahead with a space in place of each character that is told as unexpected. -/
def mended (l : Lexer) : List Char :=
  match _more : l.next? with
  | none => l.cursor.rest
  | some (item, next) =>
    mendedBy item (l.cursor.rest.take (l.cursor.rest.length - next.cursor.rest.length)) ++ next.mended
termination_by l.pending
decreasing_by exact pending_next? _more

variable {l next : Lexer} {item : Except LexicalError Token} {passed : List Char}

theorem mended_of_none (none : l.next? = none) : l.mended = l.cursor.rest := by
  rw [mended]
  split
  · rfl
  · simp_all

theorem mended_of_some (more : l.next? = some (item, next)) (split : l.cursor.rest = passed ++ next.cursor.rest) :
    l.mended = mendedBy item passed ++ next.mended := by
  have front : l.cursor.rest.take (l.cursor.rest.length - next.cursor.rest.length) = passed := by
    rw [split, List.length_append, Nat.add_sub_cancel, List.take_left]
  rw [mended]
  split
  · simp_all
  · rename_i other stop again
    obtain ⟨rfl, rfl⟩ := Prod.mk.inj (Option.some.inj (more.symm.trans again))
    rw [front]

theorem exists_passed (more : l.next? = some (item, next)) :
    ∃ passed, l.cursor.rest = passed ++ next.cursor.rest ∧ (isUnexpected item = true → passed ≠ []) := by
  obtain ⟨cursor, told⟩ := l
  cases told with
  | true => cases more
  | false =>
    rcases next?_step cursor with ⟨-, stop, nothing, step⟩ | ⟨gap, c, cs, stop, takes⟩
    · obtain ⟨rfl, rfl⟩ := Prod.mk.inj (Option.some.inj (step.symm.trans more))
      exact ⟨cursor.rest, by rw [nothing, List.append_nil], nofun⟩
    · obtain ⟨-, rfl⟩ := Prod.mk.inj (Option.some.inj (takes.next.symm.trans more))
      exact ⟨gap ++ c :: cs, by rw [takes.split]; simp, by simp⟩

theorem after_suffix (l : Lexer) (calls : Nat) : (l.after calls).cursor.rest <:+ l.cursor.rest := by
  induction calls generalizing l with
  | zero => exact List.suffix_refl _
  | succ calls ih =>
    rw [after]
    split
    · exact List.suffix_refl _
    · rename_i item next more
      obtain ⟨passed, split, -⟩ := exists_passed more
      exact (ih next).trans ⟨passed, split.symm⟩

theorem after_of_none (none : l.next? = none) (calls : Nat) : l.after calls = l := by
  cases calls with
  | zero => rfl
  | succ calls => simp only [after, none]

theorem after_succ_of_some (more : l.next? = some (item, next)) (calls : Nat) :
    l.after (calls + 1) = next.after calls := by
  simp only [after, more]

theorem rejects_iff (more : l.next? = some (item, next)) (split : l.cursor.rest = passed ++ next.cursor.rest)
    (position : Nat) : l.Rejects position ↔ isUnexpected item = true ∧ position + 1 = passed.length ∨
      passed.length ≤ position ∧ next.Rejects (position - passed.length) := by
  have length : l.cursor.rest.length = passed.length + next.cursor.rest.length := by rw [split, List.length_append]
  constructor
  · rintro ⟨calls, other, stop, told, unexpected, place⟩
    cases calls with
    | zero =>
      obtain ⟨rfl, rfl⟩ := Prod.mk.inj (Option.some.inj (more.symm.trans told))
      exact .inl ⟨unexpected, by omega⟩
    | succ calls =>
      rw [after_succ_of_some more] at told
      obtain ⟨read, splits, some⟩ := exists_passed told
      have least := List.length_pos_iff.mpr (some unexpected)
      have most := (next.after_suffix calls).length_le
      rw [splits, List.length_append] at most
      exact .inr ⟨by omega, calls, other, stop, told, unexpected, by omega⟩
  · rintro (⟨unexpected, place⟩ | ⟨behind, calls, other, stop, told, unexpected, place⟩)
    · exact ⟨0, item, next, more, unexpected, by omega⟩
    · refine ⟨calls + 1, other, stop, ?_, unexpected, by omega⟩
      rw [after_succ_of_some more, told]

theorem length_mendedBy (item : Except LexicalError Token) (some : isUnexpected item = true → passed ≠ []) :
    (mendedBy item passed).length = passed.length := by
  unfold mendedBy
  split
  · have least := List.length_pos_iff.mpr (some ‹_›)
    rw [List.length_append, List.length_dropLast, List.length_singleton]
    omega
  · rfl

theorem length_mended (l : Lexer) : l.mended.length = l.cursor.rest.length := by
  cases more : l.next? with
  | none => rw [mended_of_none more]
  | some answer =>
    obtain ⟨item, next⟩ := answer
    obtain ⟨passed, split, some⟩ := exists_passed more
    have fewer := pending_next? more
    rw [mended_of_some more split, List.length_append, length_mendedBy item some, next.length_mended, split,
      List.length_append]
termination_by l.pending

theorem getElem?_mendedBy {position : Nat} (within : position < passed.length) :
    (mendedBy item passed)[position]? =
      if isUnexpected item = true ∧ position + 1 = passed.length then some ' ' else passed[position]? := by
  unfold mendedBy
  by_cases unexpected : isUnexpected item = true
  · rw [if_pos unexpected]
    by_cases last : position + 1 = passed.length
    · have place : position = passed.dropLast.length := by rw [List.length_dropLast]; omega
      rw [if_pos ⟨unexpected, last⟩, place, List.getElem?_concat_length]
    · have place : position < passed.length - 1 := by omega
      rw [if_neg fun here => last here.2, List.getElem?_append_left (by rwa [List.length_dropLast]),
        List.getElem?_dropLast, if_pos place]
  · rw [if_neg unexpected, if_neg fun here => unexpected here.1]

theorem getElem?_mended (l : Lexer) (position : Nat) :
    (l.Rejects position → l.mended[position]? = some ' ') ∧
      (¬ l.Rejects position → l.mended[position]? = l.cursor.rest[position]?) := by
  cases more : l.next? with
  | none =>
    rw [mended_of_none more]
    refine ⟨?_, fun _ => rfl⟩
    rintro ⟨calls, item, stop, told, -⟩
    rw [after_of_none more, more] at told
    cases told
  | some answer =>
    obtain ⟨item, next⟩ := answer
    obtain ⟨passed, split, some⟩ := exists_passed more
    have length := length_mendedBy item some
    rw [rejects_iff more split, mended_of_some more split, split]
    by_cases within : position < passed.length
    · have early : ¬ passed.length ≤ position := Nat.not_le.mpr within
      rw [List.getElem?_append_left (by rwa [length]), List.getElem?_append_left within, getElem?_mendedBy within]
      constructor
      · rintro (here | ⟨later, -⟩)
        · rw [if_pos here]
        · exact absurd later early
      · intro elsewhere
        rw [if_neg fun here => elsewhere (.inl here)]
    · have fewer := pending_next? more
      rw [Nat.not_lt] at within
      rw [List.getElem?_append_right (by rwa [length]), List.getElem?_append_right within, length]
      obtain ⟨told, untold⟩ := next.getElem?_mended (position - passed.length)
      constructor
      · rintro (⟨-, here⟩ | ⟨-, later⟩)
        · omega
        · exact told later
      · intro elsewhere
        exact untold fun later => elsewhere (.inr ⟨within, later⟩)
termination_by l.pending

end Lexer

namespace Reading

theorem not_joins_of_unexpected {c d : Char} {rest : List Char}
    (read : (ofText c rest).result = .error (.unexpectedCharacter d)) : joins c = false := by
  rw [Bool.eq_false_iff]
  intro joined
  have unmarked : mark? c rest = none := by
    cases found : mark? c rest with
    | none => rfl
    | some m =>
      rw [ofText_mark found] at read
      cases read
  have letterless : startsWord c = false := by
    rw [Bool.eq_false_iff]
    intro starts
    rw [ofText_letter _ starts] at read
    cases read
  have digitless : c.isDigit = false := by
    rw [Bool.eq_false_iff]
    intro digit
    obtain ⟨x, number, -⟩ := number_takes (c :: rest)
    rw [ofText_digit _ digit, number] at read
    cases read
  have wordless : continuesWord c = false := by
    simp only [startsWord, continuesWord, Bool.or_eq_false_iff] at letterless ⊢
    exact ⟨⟨letterless.1, digitless⟩, letterless.2⟩
  -- What is left of the characters that join are marks.
  simp only [joins, wordless, Bool.false_or, Bool.or_eq_true, beq_iff_eq] at joined
  rcases joined with (rfl | rfl) | rfl
  · cases unmarked
  · cases rest with
    | nil => cases unmarked
    | cons d rest => by_cases equal : d = '=' <;> simp [mark?, equal] at unmarked
  · cases unmarked

theorem of_isUnexpected_item {c : Char} {rest : List Char} {line : Nat}
    (unexpected : isUnexpected ((ofText c rest).item line) = true) :
    (ofText c rest).taken = [c] ∧ (ofText c rest).result = .error (.unexpectedCharacter c) := by
  cases read : (ofText c rest).result with
  | ok symbol => simp [item, read, isUnexpected] at unexpected
  | error fault =>
    rcases Lexeme.of_fault read with ⟨-, taken⟩ | ⟨-, taken⟩
    · simp [item, taken, isUnexpected] at unexpected
    · rw [← read, taken]
      exact ⟨rfl, rfl⟩

end Reading

namespace Lexer

variable {cursor stop : Cursor} {gap cs : List Char} {c : Char}

theorem mended_of_finish {t : Token} (nothing : stop.rest = [])
    (next : (Lexer.mk cursor false).next? = some (.ok t, ⟨stop, true⟩)) :
    (Lexer.mk cursor false).mended = cursor.rest := by
  have split : cursor.rest = cursor.rest ++ stop.rest := by rw [nothing, List.append_nil]
  have told : (Lexer.mk stop true).mended = [] := (mended_of_none rfl).trans nothing
  rw [mended_of_some next split, told, List.append_nil]
  rfl

theorem mended_of_nil (nothing : cursor.rest = []) : (Lexer.mk cursor false).mended = [] := by
  rcases next?_step cursor with ⟨-, stop, left, next⟩ | ⟨gap, c, cs, stop, takes⟩
  · rw [mended_of_finish left next, nothing]
  · have split := takes.split
    simp [nothing] at split

theorem Takes.mended_eq (takes : Takes cursor gap c cs stop) : (Lexer.mk cursor false).mended =
    mendedBy ((Reading.ofText c (cs ++ stop.rest)).item stop.line) (gap ++ c :: cs) ++ (Lexer.mk stop false).mended :=
  mended_of_some takes.next (by rw [takes.split]; simp)

theorem Takes.of_unexpected (takes : Takes cursor gap c cs stop)
    (unexpected : isUnexpected ((Reading.ofText c (cs ++ stop.rest)).item stop.line) = true) :
    cs = [] ∧ Reading.joins c = false ∧
      (Lexer.mk cursor false).mended = gap ++ ' ' :: (Lexer.mk stop false).mended := by
  obtain ⟨taken, read⟩ := Reading.of_isUnexpected_item unexpected
  have alone : cs = [] := (List.cons.inj (takes.taken.symm.trans taken)).2
  refine ⟨alone, Reading.not_joins_of_unexpected read, ?_⟩
  rw [takes.mended_eq, mendedBy, if_pos unexpected, alone, List.dropLast_concat, List.append_assoc]
  rfl

theorem Takes.ne_newline (takes : Takes cursor gap c cs stop) : c ≠ '\n' := by
  rintro rfl
  cases takes.clear.1

theorem resembles_mended (cursor : Cursor) : Reading.Resembles cursor.rest (Lexer.mk cursor false).mended := by
  rcases next?_step cursor with ⟨-, stop, nothing, next⟩ | ⟨gap, c, cs, stop, takes⟩
  · rw [mended_of_finish nothing next]
    rfl
  · have shorter := takes.shorter
    rw [takes.split]
    by_cases unexpected : isUnexpected ((Reading.ofText c (cs ++ stop.rest)).item stop.line) = true
    · obtain ⟨-, apart, mended⟩ := takes.of_unexpected unexpected
      rw [mended]
      refine .append gap ?_
      rw [Reading.Resembles, List.takeWhile_cons_of_neg (by simp [apart])]
      rfl
    · rw [takes.mended_eq, mendedBy, if_neg unexpected, List.append_assoc]
      exact .append gap (.append (c :: cs) (resembles_mended stop))
termination_by cursor.rest.length

theorem yields_mended (cursor : Cursor) : Yields (Lexer.mk cursor false).mended cursor.line
    ((Lexer.mk cursor false).items.filter (!isUnexpected ·)) := by
  rcases next?_step cursor with ⟨layout, stop, nothing, next⟩ | ⟨gap, c, cs, stop, takes⟩
  · rw [items_eq, next, mended_of_finish nothing next]
    dsimp only
    rw [items_of_told]
    exact .finish layout
  · have shorter := takes.shorter
    have more := yields_mended stop
    rw [takes.line] at more
    rw [items_eq, takes.next]
    dsimp only
    rw [List.filter_cons]
    by_cases unexpected : isUnexpected ((Reading.ofText c (cs ++ stop.rest)).item stop.line) = true
    · obtain ⟨rfl, -, mended⟩ := takes.of_unexpected unexpected
      -- The space goes with the layout in front of it, which the character that is told could not end.
      have other := takes.ne_newline
      have layout : Gap (gap ++ [' ']) (Lexer.mk stop false).mended := by
        refine .append (takes.layout.before ?_) (.space rfl .nil)
        rintro (none | newline)
        · cases none
        · exact absurd (Option.some.inj newline) other
      have lines : (gap ++ [c]).count '\n' = (gap ++ [' ']).count '\n' := by simp [List.count_append, other]
      rw [lines] at more
      rw [mended, if_neg (by simpa using unexpected)]
      simpa using Yields.behind layout more
    · rw [takes.mended_eq, mendedBy, if_neg unexpected, if_pos (by simp [unexpected]), takes.line, List.append_assoc]
      refine .item_resembling takes.layout takes.clear takes.taken ?_ (resembles_mended stop) more
      intro unclosed
      obtain ⟨nothing, -⟩ := Reading.nothing_behind_unterminated takes.taken unclosed
      rw [mended_of_nil nothing, nothing]
termination_by cursor.rest.length

end Lexer

namespace Scan

variable {source : String}

def mended (source : String) : String := String.ofList (Lexer.ofText source).mended

theorem items_mended (source : String) :
    (Lexer.ofText (mended source)).items = (Lexer.ofText source).items.filter (!isUnexpected ·) := by
  apply Lexer.items_of_yields
  rw [mended, String.toList_ofList]
  exact Lexer.yields_mended (.ofText source)

theorem tokens_mended (source : String) : (ofText (mended source)).tokens = (ofText source).tokens := by
  rw [tokens_eq, items_mended, List.filterMap_filter, tokens_eq]
  congr 1
  funext item
  cases item with
  | ok t => rfl
  | error e => exact ite_self none

theorem errors_mended (source : String) : (ofText (mended source)).errors =
    (ofText source).errors.filter (·.fault == .unterminatedString) := by
  rw [errors_eq, items_mended, List.filterMap_filter, errors_eq, List.filter_filterMap]
  congr 1
  funext item
  cases item with
  | ok t => rfl
  | error e =>
    obtain ⟨fault, line⟩ := e
    cases fault <;> rfl

/-- A text scans as it does with a space in place of each unexpected character, but for these not being told then. So
its tokens, with the lines they stand on, are parsed alike. -/
theorem unexpected_as_spaces (source : String) :
    (mended source).length = source.length ∧
    (∀ position, ((Lexer.ofText source).Rejects position → (mended source).toList[position]? = some ' ') ∧
      (¬ (Lexer.ofText source).Rejects position → (mended source).toList[position]? = source.toList[position]?)) ∧
    (Lexer.ofText (mended source)).items = (Lexer.ofText source).items.filter (!isUnexpected ·) ∧
    (ofText (mended source)).tokens = (ofText source).tokens ∧
    (ofText (mended source)).errors = (ofText source).errors.filter (·.fault == .unterminatedString) ∧
    Expr.ofTokens (ofText (mended source)).tokens = Expr.ofTokens (ofText source).tokens := by
  refine ⟨?_, ?_, items_mended source, tokens_mended source, errors_mended source, by rw [tokens_mended]⟩
  · rw [mended, String.length_ofList, ← String.length_toList]
    exact (Lexer.ofText source).length_mended
  · intro position
    rw [mended, String.toList_ofList]
    exact (Lexer.ofText source).getElem?_mended position

example : mended "1@. #\n!@= \"@\" //#\n@/$/" = "1 .  \n! = \"@\" //#\n / /" := by
  decide +kernel

end Scan

end Reckon
