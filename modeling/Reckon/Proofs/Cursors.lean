import Mathlib.Data.String.Basic
import Reckon.Proofs.Coverage

namespace Reckon

namespace Cursor

inductive Move where
  | next
  | nextIf (expected : Char)
  | advanceWhile (p : Char → Bool)

def Move.apply : Move → Cursor → Cursor
  | next, c => c.next
  | nextIf expected, c => (c.nextIf? expected).getD c
  | advanceWhile p, c => c.advanceWhile p

def Move.taken : Move → Cursor → List Char
  | next, c => c.peek?.toList
  | nextIf expected, c => if c.peek? = some expected then [expected] else []
  | advanceWhile p, c => c.rest.takeWhile p

structure Trail where
  cursor : Cursor
  consumed : List Char

def Trail.move (m : Move) (trail : Trail) : Trail := ⟨m.apply trail.cursor, trail.consumed ++ m.taken trail.cursor⟩

/-- What is done with one of several cursors: a move, a new copy of it, or its return to where another one is. -/
inductive Action where
  | move (i : Nat) (m : Move)
  | copy (i : Nat)
  | restore (i saved : Nat)

def Action.apply : Action → List Trail → List Trail
  | move i m, trails => trails.modify i (Trail.move m)
  | copy i, trails => trails ++ trails[i]?.toList
  | restore i saved, trails => trails.modify i fun trail => trails[saved]?.getD trail

def after (source : String) (actions : List Action) : List Trail :=
  actions.foldl (fun trails action => action.apply trails) [⟨ofText source, []⟩]

/-- Some history of a cursor over the text and its copies comes to this cursor, with these characters consumed. -/
def Reached (source : String) (consumed : List Char) (c : Cursor) : Prop :=
  ∃ actions, ⟨c, consumed⟩ ∈ after source actions

structure Stands (source : String) (read : List Char) (c : Cursor) : Prop where
  text : c.source = source
  split : source.toList = read ++ c.rest
  offset : c.offset = String.utf8Len read
  line : c.line = 1 + read.count '\n'

theorem source_next (c : Cursor) : c.next.source = c.source := by
  unfold next
  split <;> rfl

theorem source_advance (c : Cursor) (count : Nat) : (c.advance count).source = c.source := by
  induction count generalizing c with
  | zero => rfl
  | succ count ih => rw [advance, ih, source_next]

theorem offset_next (c : Cursor) : c.next.offset = c.offset + String.utf8Len (c.rest.take 1) := by
  unfold next
  split
  · rename_i ahead
    simp [ahead]
  · rename_i ch rest ahead
    simp [ahead]

theorem offset_advance (c : Cursor) (count : Nat) :
    (c.advance count).offset = c.offset + String.utf8Len (c.rest.take count) := by
  induction count generalizing c with
  | zero => simp [advance]
  | succ count ih =>
    rw [advance, ih, offset_next, rest_next, Nat.add_assoc, ← String.utf8Len_append]
    cases c.rest <;> simp

theorem stands_ofText (source : String) : (ofText source).Stands source [] := ⟨rfl, rfl, rfl, rfl⟩

theorem Stands.advance {source : String} {read : List Char} {c : Cursor} (stands : c.Stands source read)
    (count : Nat) : (c.advance count).Stands source (read ++ c.rest.take count) where
  text := by rw [source_advance, stands.text]
  split := by rw [rest_advance, List.append_assoc, List.take_append_drop, stands.split]
  offset := by rw [offset_advance, stands.offset, String.utf8Len_append]
  line := by rw [line_advance, stands.line, List.count_append, Nat.add_assoc]

theorem Move.apply_eq_advance (m : Move) (c : Cursor) :
    m.apply c = c.advance (m.taken c).length ∧ c.rest.take (m.taken c).length = m.taken c := by
  cases m with
  | next =>
    obtain ⟨source, rest, offset, line⟩ := c
    cases rest <;> exact ⟨rfl, rfl⟩
  | nextIf expected =>
    by_cases here : c.peek? = some expected
    · obtain ⟨rest, ahead⟩ := List.head?_eq_some_iff.mp here
      simp [apply, taken, nextIf?, here, ahead, Cursor.advance]
    · simp [apply, taken, nextIf?, here, Cursor.advance]
  | advanceWhile p => exact ⟨rfl, (List.prefix_iff_eq_take.mp (List.takeWhile_prefix p)).symm⟩

theorem mem_of_mem_modify {f : Trail → Trail} {trails : List Trail} {i : Nat} {trail : Trail}
    (member : trail ∈ trails.modify i f) : trail ∈ trails ∨ ∃ before ∈ trails, trail = f before := by
  obtain ⟨k, found⟩ := List.mem_iff_getElem?.mp member
  rw [List.getElem?_modify] at found
  obtain ⟨before, there, same⟩ := Option.map_eq_some_iff.mp found
  have present := List.mem_of_getElem? there
  split at same
  · exact .inr ⟨before, present, same.symm⟩
  · exact .inl (same ▸ present)

def AllStand (source : String) (trails : List Trail) : Prop :=
  ∀ trail ∈ trails, trail.cursor.Stands source trail.consumed

theorem Action.allStand {source : String} {trails : List Trail} (action : Action)
    (stand : AllStand source trails) : AllStand source (action.apply trails) := by
  intro trail member
  cases action with
  | move i m =>
    rcases mem_of_mem_modify member with same | ⟨before, present, rfl⟩
    · exact stand trail same
    · obtain ⟨moved, taken⟩ := m.apply_eq_advance before.cursor
      have stands := (stand before present).advance (m.taken before.cursor).length
      rw [← moved, taken] at stands
      exact stands
  | copy i =>
    rcases List.mem_append.mp member with same | copied
    · exact stand trail same
    · apply stand trail
      exact List.mem_of_getElem? (Option.mem_toList.mp copied)
  | restore i saved =>
    rcases mem_of_mem_modify member with same | ⟨before, present, rfl⟩
    · exact stand trail same
    · cases found : trails[saved]? with
      | none => exact stand before present
      | some kept => exact stand kept (List.mem_of_getElem? found)

theorem Reached.stands {source : String} {consumed : List Char} {c : Cursor} (reached : Reached source consumed c) :
    c.Stands source consumed := by
  obtain ⟨actions, member⟩ := reached
  have run : ∀ trails, AllStand source trails →
      AllStand source (actions.foldl (fun trails action => action.apply trails) trails) := by
    clear member
    induction actions with
    | nil => exact fun _ stand => stand
    | cons action actions ih => exact fun trails stand => ih _ (action.allStand stand)
  refine run _ ?_ _ member
  intro trail start
  rw [List.mem_singleton.mp start]
  exact stands_ofText source

section

variable {source : String} {read more : List Char} {a b c : Cursor}

theorem Stands.offset_eq_sub (stands : c.Stands source read) :
    c.offset = source.utf8ByteSize - (String.ofList c.rest).utf8ByteSize := by
  rw [stands.offset, ← String.utf8Len_toList, stands.split, String.utf8Len_append, String.utf8ByteSize_ofList,
    Nat.add_sub_cancel]

theorem Stands.isValid (stands : c.Stands source read) : String.Pos.Raw.IsValid source ⟨c.offset⟩ := by
  have whole : source = String.ofList read ++ String.ofList c.rest := by
    rw [← String.ofList_append, ← stands.split, String.ofList_toList]
  have behind : (⟨c.offset⟩ : String.Pos.Raw) = (String.ofList read).rawEndPos := by
    rw [String.rawEndPos_ofList, stands.offset]
  rw [whole, behind]
  exact String.Pos.Raw.isValid_rawEndPos.append_right _

/-- As many bytes or fewer behind a cursor are the first of those behind the other, since no character is empty. -/
theorem Stands.read_prefix (first : a.Stands source read) (second : b.Stands source more)
    (order : a.offset ≤ b.offset) : read <+: more := by
  have before : read <+: source.toList := ⟨a.rest, first.split.symm⟩
  have beyond : more <+: source.toList := ⟨b.rest, second.split.symm⟩
  rcases List.prefix_or_prefix_of_prefix before beyond with shorter | ⟨text, longer⟩
  · exact shorter
  · rw [first.offset, second.offset, ← longer, String.utf8Len_append] at order
    have none : String.utf8Len text = 0 := by omega
    have same : read = more := by rw [← longer, String.utf8Len_eq_zero.mp none, List.append_nil]
    exact same ▸ List.prefix_rfl

theorem Stands.read_eq (first : a.Stands source read) (second : b.Stands source more)
    (same : a.offset = b.offset) : read = more := by
  have shorter := first.read_prefix second (Nat.le_of_eq same)
  have longer := second.read_prefix first (Nat.le_of_eq same.symm)
  exact shorter.eq_of_length_le longer.length_le

theorem Stands.agrees_iff (first : a.Stands source read) (second : b.Stands source more) :
    a.agrees b = true ↔ a.offset = b.offset := by
  have split : read ++ a.rest = more ++ b.rest := first.split.symm.trans second.split
  simp only [agrees, first.text, second.text, beq_self_eq_true, Bool.true_and, beq_iff_eq]
  constructor
  · intro ahead
    rw [ahead] at split
    rw [first.offset, second.offset, List.append_cancel_right split]
  · intro same
    rw [first.read_eq second same] at split
    exact List.append_cancel_left split

theorem Stands.line_eq (first : a.Stands source read) (second : b.Stands source more)
    (same : a.offset = b.offset) : a.line = b.line := by
  rw [first.line, second.line, first.read_eq second same]

structure Between (a b : Cursor) (text : List Char) : Prop where
  source : a.source = b.source
  ahead : a.rest = text ++ b.rest
  offset : b.offset = a.offset + String.utf8Len text

theorem Stands.exists_between (first : a.Stands source read) (second : b.Stands source more)
    (order : a.offset ≤ b.offset) : ∃ text, a.Between b text := by
  obtain ⟨text, rfl⟩ := first.read_prefix second order
  refine ⟨text, first.text.trans second.text.symm, ?_, ?_⟩
  · have split := first.split.symm.trans second.split
    rw [List.append_assoc] at split
    exact List.append_cancel_left split
  · rw [second.offset, String.utf8Len_append, first.offset]

theorem Between.append {front back : List Char} (first : a.Between b front) (second : b.Between c back) :
    a.Between c (front ++ back) where
  source := first.source.trans second.source
  ahead := by rw [first.ahead, second.ahead, List.append_assoc]
  offset := by rw [second.offset, first.offset, String.utf8Len_append, Nat.add_assoc]

theorem firstBytes_append (text rest : List Char) : firstBytes (String.utf8Len text) (text ++ rest) = text := by
  induction text with
  | nil =>
    cases rest with
    | nil => rfl
    | cons ch rest => simp [firstBytes, Nat.not_le.mpr ch.utf8Size_pos]
  | cons ch text ih => simp [firstBytes, ih]

theorem Between.slice? {text : List Char} (between : a.Between b text) : a.slice? b = some (String.ofList text) := by
  have order : a.offset ≤ b.offset := by rw [between.offset]; exact Nat.le_add_right _ _
  rw [Cursor.slice?, if_pos ⟨between.source, order⟩, between.offset, Nat.add_sub_cancel_left, between.ahead,
    firstBytes_append]

/-- The text between two offsets in bytes, of which neither may lie behind the other, behind the end or within a
character. -/
def cut? (source : String) (start stop : Nat) : Option String :=
  if start ≤ stop ∧ String.Pos.Raw.IsValid source ⟨start⟩ ∧ String.Pos.Raw.IsValid source ⟨stop⟩ then
    some (String.Pos.Raw.extract source ⟨start⟩ ⟨stop⟩)
  else none

theorem Between.extract {text : List Char} (between : a.Between b text) (stands : a.Stands source read) :
    String.Pos.Raw.extract source ⟨a.offset⟩ ⟨b.offset⟩ = String.ofList text := by
  have whole : source = String.ofList (read ++ text ++ b.rest) := by
    rw [List.append_assoc, ← between.ahead, ← stands.split, String.ofList_toList]
  rw [between.offset, stands.offset, whole]
  exact String.extract_of_valid read text b.rest

theorem Stands.slice?_eq_none_iff (first : a.Stands source read) (second : b.Stands source more) :
    a.slice? b = none ↔ b.offset < a.offset := by
  simp [slice?, first.text, second.text]

theorem Stands.slice?_eq_cut? (first : a.Stands source read) (second : b.Stands source more) :
    a.slice? b = cut? source a.offset b.offset := by
  by_cases order : a.offset ≤ b.offset
  · obtain ⟨text, between⟩ := first.exists_between second order
    rw [between.slice?, cut?, if_pos ⟨order, first.isValid, second.isValid⟩, between.extract first]
  · rw [cut?, if_neg (fun inside => order inside.1), first.slice?_eq_none_iff second]
    exact Nat.not_le.mp order

end

structure Consistent (a b : Cursor) : Prop where
  agrees : a.agrees b = true ↔ a.offset = b.offset
  line : a.agrees b = true → a.line = b.line
  refused : a.slice? b = none ↔ b.offset < a.offset
  between : a.offset ≤ b.offset → ∃ text, a.slice? b = some text ∧ a.rest = text.toList ++ b.rest
  bytes : a.slice? b = cut? a.source a.offset b.offset

theorem Stands.consistent {source : String} {read more : List Char} {a b : Cursor} (first : a.Stands source read)
    (second : b.Stands source more) : a.Consistent b where
  agrees := first.agrees_iff second
  line same := first.line_eq second ((first.agrees_iff second).mp same)
  refused := first.slice?_eq_none_iff second
  between order := by
    obtain ⟨text, between⟩ := first.exists_between second order
    exact ⟨String.ofList text, between.slice?, by rw [String.toList_ofList, between.ahead]⟩
  bytes := by rw [first.text, first.slice?_eq_cut? second]

/-- Cursors that any histories come to stand where their offsets and lines say, which is never within a character. Over
one text they agree where their offsets do and cut out the text between them, in pieces or at once, unless they are out
of order; over different texts they cut out nothing. -/
theorem histories_consistent :
    (∀ source consumed c, Reached source consumed c → c.Stands source consumed ∧
      c.offset = source.utf8ByteSize - (String.ofList c.rest).utf8ByteSize ∧
      String.Pos.Raw.IsValid source ⟨c.offset⟩) ∧
    (∀ source read more a b, Reached source read a → Reached source more b → a.Consistent b) ∧
    (∀ source read more most a b c, Reached source read a → Reached source more b → Reached source most c →
      a.offset ≤ b.offset → b.offset ≤ c.offset → ∃ front back, a.slice? b = some front ∧ b.slice? c = some back ∧
        a.slice? c = some (front ++ back)) ∧
    ∀ source other read more a b, Reached source read a → Reached other more b → source ≠ other →
      a.slice? b = none := by
  refine ⟨?_, ?_, ?_, ?_⟩
  · intro source consumed c reached
    exact ⟨reached.stands, reached.stands.offset_eq_sub, reached.stands.isValid⟩
  · intro source read more a b first second
    exact first.stands.consistent second.stands
  · intro source read more most a b c first second third order onward
    obtain ⟨front, near⟩ := first.stands.exists_between second.stands order
    obtain ⟨back, far⟩ := second.stands.exists_between third.stands onward
    refine ⟨String.ofList front, String.ofList back, near.slice?, far.slice?, ?_⟩
    rw [(near.append far).slice?, String.ofList_append]
  · intro source other read more a b first second different
    apply if_neg
    rintro ⟨same, _⟩
    exact different (first.stands.text.symm.trans (same.trans second.stands.text))

def middle : Cursor := ⟨"é\n1", ['\n', '1'], 2, 1⟩

def lower : Cursor := ⟨"é\n1", ['1'], 3, 2⟩

theorem accented_histories_consistent :
    Reached "é\n1" [] (ofText "é\n1") ∧ Reached "é\n1" ['é'] middle ∧ Reached "é\n1" ['é', '\n'] lower ∧
      Reached "é" [] (ofText "é") ∧ "é\n1" ≠ "é" ∧
      (ofText "é\n1").offset ≤ middle.offset ∧ middle.offset ≤ lower.offset ∧
      middle.Stands "é\n1" ['é'] ∧ lower.Consistent middle ∧
      (∃ front back, (ofText "é\n1").slice? middle = some front ∧ middle.slice? lower = some back ∧
        (ofText "é\n1").slice? lower = some (front ++ back)) ∧
      lower.slice? (ofText "é") = none := by
  have trails : after "é\n1" [.copy 0, .move 1 .next, .copy 1, .move 2 (.nextIf '1'),
      .move 2 (.advanceWhile (· != '1')), .move 0 .next, .restore 0 2] =
      [⟨lower, ['é', '\n']⟩, ⟨middle, ['é']⟩, ⟨lower, ['é', '\n']⟩] := rfl
  have first : Reached "é\n1" [] (ofText "é\n1") := ⟨[], List.mem_singleton_self _⟩
  have second : Reached "é\n1" ['é'] middle := ⟨_, by rw [trails]; simp⟩
  have third : Reached "é\n1" ['é', '\n'] lower := ⟨_, by rw [trails]; simp⟩
  have other : Reached "é" [] (ofText "é") := ⟨[], List.mem_singleton_self _⟩
  have different : "é\n1" ≠ "é" := by decide
  have order : (ofText "é\n1").offset ≤ middle.offset := by decide
  have onward : middle.offset ≤ lower.offset := by decide
  obtain ⟨places, pairs, pieces, strangers⟩ := histories_consistent
  exact ⟨first, second, third, other, different, order, onward, (places _ _ _ second).1, pairs _ _ _ _ _ third second,
    pieces _ _ _ _ _ _ _ first second third order onward, strangers _ _ _ _ _ _ third other different⟩

end Cursor

end Reckon
