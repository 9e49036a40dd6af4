import Mathlib.Data.List.DropRight
import Reckon.Command
import Reckon.Proofs.Stages

namespace Reckon

/-- The lines of some bytes: each has its line end, but for the last, which may have none unless it is empty. -/
inductive Lines : List UInt8 → List ByteArray → Prop
  | nil : Lines [] []
  | last {part : List UInt8} (endless : 10 ∉ part) (some : part ≠ []) : Lines part [part.toByteArray]
  | line {part rest : List UInt8} {lines : List ByteArray} (endless : 10 ∉ part) (more : Lines rest lines) :
      Lines (part ++ 10 :: rest) ((part ++ [10]).toByteArray :: lines)

namespace Lines

theorem first_unique {first second front rest : List UInt8} (endless : 10 ∉ first) (also : 10 ∉ second)
    (same : first ++ 10 :: front = second ++ 10 :: rest) : first = second ∧ front = rest := by
  induction first generalizing second with
  | nil =>
    cases second with
    | nil => exact ⟨rfl, List.tail_eq_of_cons_eq same⟩
    | cons byte second =>
      obtain ⟨rfl, -⟩ := List.cons.inj same
      exact absurd List.mem_cons_self also
  | cons byte first ih =>
    cases second with
    | nil =>
      obtain ⟨rfl, -⟩ := List.cons.inj same
      exact absurd List.mem_cons_self endless
    | cons other second =>
      obtain ⟨rfl, more⟩ := List.cons.inj same
      obtain ⟨rfl, rfl⟩ := ih (fun member => endless (List.mem_cons_of_mem _ member))
        (fun member => also (List.mem_cons_of_mem _ member)) more
      exact ⟨rfl, rfl⟩

theorem unique {bytes : List UInt8} {lines others : List ByteArray} (split : Lines bytes lines)
    (also : Lines bytes others) : others = lines := by
  induction split generalizing others with
  | nil =>
    generalize nothing : ([] : List UInt8) = bytes at also
    cases also with
    | nil => rfl
    | last _ some => exact absurd nothing.symm some
    | line => simp at nothing
  | @last part endless some =>
    cases also with
    | nil => exact absurd rfl some
    | last => rfl
    | line => simp at endless
  | @line part rest lines endless _ ih =>
    generalize same : part ++ 10 :: rest = bytes at also
    cases also with
    | nil => simp at same
    | last endlessToo => simp [← same] at endlessToo
    | line endlessToo more =>
      obtain ⟨rfl, rfl⟩ := first_unique endless endlessToo same
      rw [ih more]

end Lines

theorem splitLines_lines (found : Array ByteArray) (bytes : List UInt8) {part : List UInt8} (endless : 10 ∉ part) :
    ∃ lines, Lines (part ++ bytes) lines ∧ splitLines found part.toByteArray bytes = found.toList ++ lines := by
  induction bytes generalizing found part with
  | nil =>
    rw [splitLines, List.append_nil]
    cases part with
    | nil => exact ⟨[], .nil, by simp [ByteArray.isEmpty]⟩
    | cons byte part => exact ⟨_, .last endless (List.cons_ne_nil _ _), by simp [ByteArray.isEmpty]⟩
  | cons byte bytes ih =>
    have pushed : part.toByteArray.push byte = (part ++ [byte]).toByteArray := by
      apply ByteArray.ext
      simp
    rw [splitLines, pushed]
    split
    · subst byte
      obtain ⟨lines, split, answer⟩ := ih (found.push (part ++ [10]).toByteArray) List.not_mem_nil
      refine ⟨_, .line endless split, ?_⟩
      rw [show ByteArray.empty = [].toByteArray from rfl, answer]
      simp
    · have still : 10 ∉ part ++ [byte] := by simp_all [eq_comm]
      obtain ⟨lines, split, answer⟩ := ih found still
      refine ⟨lines, ?_, answer⟩
      simpa using split

theorem inputLines_lines (input : ByteArray) : Lines input.toList (inputLines input) := by
  have endless : (10 : UInt8) ∉ [] := List.not_mem_nil
  obtain ⟨lines, split, answer⟩ := splitLines_lines #[] input.toList endless
  rw [List.nil_append] at split answer
  rwa [inputLines, show ByteArray.empty = [].toByteArray from rfl, answer]

def trimmed (text : String) : List Char := (text.toList.dropWhile isWhiteSpace).rdropWhile isWhiteSpace

theorem isBlank_iff_trimmed (text : String) : isBlank text = true ↔ trimmed text = [] := by
  rw [isBlank, List.all_eq_true, trimmed, List.rdropWhile_eq_nil_iff, ← List.dropWhile_eq_nil_iff]
  constructor
  · intro blank
    rw [blank]
    exact fun _ member => absurd member List.not_mem_nil
  · intro white
    by_contra some
    have first := List.head_dropWhile_not isWhiteSpace some
    rw [white _ (List.head_mem some)] at first
    cases first

theorem fromUTF8?_toUTF8 (text : String) : String.fromUTF8? text.toUTF8 = some text := by
  rw [String.fromUTF8?, String.toUTF8_eq_toByteArray, dif_pos text.isValidUTF8]
  rfl

theorem fromUTF8?_eq_some_iff {line : ByteArray} {text : String} :
    String.fromUTF8? line = some text ↔ text.toUTF8 = line := by
  constructor
  · intro decoded
    unfold String.fromUTF8? at decoded
    split at decoded
    · cases decoded
      rfl
    · cases decoded
  · rintro rfl
    exact fromUTF8?_toUTF8 text

def NoText (line : ByteArray) : Prop := ∀ text : String, text.toUTF8 ≠ line

theorem decode_lines (lines : List ByteArray) : (∃ texts : List String, lines = texts.map String.toUTF8) ∨
    ∃ (texts : List String) (line : ByteArray) (more : List ByteArray),
      lines = texts.map String.toUTF8 ++ line :: more ∧ NoText line := by
  induction lines with
  | nil => exact .inl ⟨[], rfl⟩
  | cons line lines ih =>
    cases decoded : String.fromUTF8? line with
    | none =>
      refine .inr ⟨[], line, lines, rfl, ?_⟩
      intro text same
      rw [fromUTF8?_eq_some_iff.mpr same] at decoded
      cases decoded
    | some text =>
      obtain rfl := fromUTF8?_eq_some_iff.mp decoded
      rcases ih with ⟨texts, rfl⟩ | ⟨texts, bad, more, rfl, undecoded⟩
      · exact .inl ⟨text :: texts, rfl⟩
      · exact .inr ⟨text :: texts, bad, more, rfl, undecoded⟩

@[simp] theorem Output.append_eq (first second : Output) :
    first ++ second = ⟨first.out ++ second.out, first.err ++ second.err⟩ := rfl

namespace Session

def alone? (text : String) : Option (Except Diagnostics Value) :=
  if trimmed text = [] then none else some (Run.ofText id text).result

def fails (text : String) : Bool :=
  match alone? text with
  | some (.error _) => true
  | _ => false

def faults (text : String) : Diagnostics :=
  match alone? text with
  | some (.error ds) => ds
  | _ => []

def shown (rendering : Option Rendering) (text : String) : String :=
  if trimmed text = [] then "" else (report rendering text).1.out

def told (text : String) : String := String.join ((faults text).map fun d => d.text ++ "\n")

theorem report_eq (rendering : Option Rendering) {text : String} (some : trimmed text ≠ []) :
    report rendering text = (⟨shown rendering text, told text⟩, !fails text) := by
  obtain ⟨stage, seen, result, course⟩ := Run.exists_course text
  rw [shown, if_neg some, told, fails, faults, alone?, if_neg some, report, course.ofText_eq, course.ofText_eq]
  cases result <;> rfl

theorem answer?_toUTF8 (rendering : Option Rendering) (session : Session) (text : String) :
    session.answer? rendering text.toUTF8 =
      some (⟨shown rendering text, told text⟩, ⟨session.failed || fails text⟩) := by
  rw [answer?, fromUTF8?_toUTF8, Option.map_some]
  by_cases nothing : trimmed text = []
  · have blank := (isBlank_iff_trimmed text).mpr nothing
    simp [blank, shown, told, fails, faults, alone?, nothing]
  · have unblank : isBlank text = false := by
      rw [Bool.eq_false_iff]
      exact fun blank => nothing ((isBlank_iff_trimmed text).mp blank)
    simp [unblank, report_eq rendering nothing]

/-- Lines of text go in front of what else there is to read, and leave behind only whether one of them fails. -/
theorem continued_texts (rendering : Option Rendering) (texts : List String) (rest : List ByteArray)
    (session : Session) (written : Output) :
    session.continued rendering written (texts.map String.toUTF8 ++ rest) =
      continued rendering ⟨session.failed || texts.any fails⟩
        (written ++ ⟨String.join (texts.map (promptText ++ shown rendering ·)), String.join (texts.map told)⟩)
        rest := by
  induction texts generalizing session written with
  | nil => simp
  | cons text texts ih =>
    rw [List.map_cons, List.cons_append, continued, answer?_toUTF8]
    dsimp only
    rw [ih]
    simp [String.append_assoc, Bool.or_assoc]

structure Transcribed (rendering : Option Rendering) (lines : List ByteArray) (answer : Output × Status) : Prop where
  decoded : (∃ texts : List String, lines = texts.map String.toUTF8) ∨
    ∃ (texts : List String) (line : ByteArray) (more : List ByteArray),
      lines = texts.map String.toUTF8 ++ line :: more ∧ NoText line
  ended : ∀ texts : List String, lines = texts.map String.toUTF8 →
    answer.1.out = String.join (texts.map ("> " ++ shown rendering ·)) ++ "> \nBye bye!\n" ∧
    answer.1.err = String.join (texts.map told) ∧
    answer.2.code = if texts.any fails then 20 else 0
  refused : ∀ (texts : List String) (line : ByteArray) (more : List ByteArray),
    lines = texts.map String.toUTF8 ++ line :: more → NoText line →
    answer.1.out = String.join (texts.map ("> " ++ shown rendering ·)) ++ "> " ∧
    answer.1.err = String.join (texts.map told) ++ "stream did not contain valid UTF-8\n" ∧
    answer.2.code = 10

theorem transcribed_transcript (rendering : Option Rendering) (lines : List ByteArray) :
    Transcribed rendering lines (transcript rendering lines) := by
  refine ⟨decode_lines lines, ?ended, ?refused⟩
  case ended =>
    rintro texts rfl
    rw [← List.append_nil (texts.map _), transcript, continued_texts, continued]
    refine ⟨?_, ?_, ?_⟩
    · simp [farewell, promptText, String.append_assoc]
    · simp [farewell]
    · simp only [farewell, Bool.false_or]
      split <;> rfl
  case refused =>
    rintro texts line more rfl undecoded
    have unanswered (session : Session) : session.answer? rendering line = none := by
      rw [answer?, Option.map_eq_none_iff, Option.eq_none_iff_forall_ne_some]
      exact fun text decoded => undecoded text (fromUTF8?_eq_some_iff.mp decoded)
    rw [transcript, continued_texts, continued, unanswered]
    refine ⟨?_, ?_, rfl⟩
    · simp [refusal, promptText]
    · simp [refusal, invalidText]

end Session

namespace Command

/-- A session is what its lines come to one by one: they are read up to the end, or up to bytes that are no text. -/
theorem runs_each_line (rendering : Option Rendering) (contentsAt : String → Except String ByteArray)
    (input : ByteArray) :
    ∃ lines, Lines input.toList lines ∧ (∀ others, Lines input.toList others → others = lines) ∧
      Session.Transcribed rendering lines (perform ⟨none, rendering⟩ contentsAt input) := by
  refine ⟨inputLines input, inputLines_lines input, fun _ => (inputLines_lines input).unique, ?_⟩
  exact Session.transcribed_transcript rendering (inputLines input)

example : run (fun _ => .error "") ("-1\n\t\n1 / 0\n".toUTF8.push 255) ["--print=rpn"] =
    (⟨"> 1 -\nResult> -1\n> > 1 0 /\n> ",
      "[line 1] Error at '/': RHS operand must not be 0.\nstream did not contain valid UTF-8\n"⟩,
      .unreadableInput) := by
  decide +kernel

end Command

end Reckon
