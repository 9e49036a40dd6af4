import Reckon.Proofs.Yields

namespace Reckon

open Reading

theorem Reading.resembles_newline (left text : List Char) : Resembles left (left ++ '\n' :: text) := by
  have seam : Resembles [] ('\n' :: text) := rfl
  simpa using seam.append left

theorem Gap.newline {gap : List Char} (layout : Gap gap []) (text : List Char) : Gap (gap ++ ['\n']) text :=
  .append (layout.before fun _ => .inr rfl) (.space rfl .nil)

theorem Yields.joined {text other : List Char} {line : Nat} {items others : List (Except LexicalError Token)}
    (first : Yields text line items) (closed : ∀ n, .error ⟨.unterminatedString, n⟩ ∉ items)
    (second : Yields other (line + text.count '\n' + 1) others) :
    Yields (text ++ '\n' :: other) line (items.dropLast ++ others) := by
  induction first with
  | @finish gap line layout =>
    have lines : line + gap.count '\n' + 1 = line + (gap ++ ['\n']).count '\n' := by
      rw [List.count_append, Nat.add_assoc]
      rfl
    rw [lines] at second
    simpa using Yields.behind (layout.newline other) second
  | @item gap cs left c line items layout clear taken more ih =>
    have unclosed : (ofText c (cs ++ left)).result = .error .unterminatedString → left ++ '\n' :: other = left := by
      intro fault
      refine absurd (List.mem_cons.mpr (.inl ?_)) (closed (line + (gap ++ c :: cs).count '\n'))
      simp only [Reading.item, fault]
    have split : gap ++ c :: (cs ++ left) = gap ++ c :: cs ++ left := by simp
    rw [split, List.count_append, ← Nat.add_assoc] at second
    have later := ih (fun n member => closed n (List.mem_cons_of_mem _ member)) second
    have whole := Yields.item_resembling layout clear taken unclosed (resembles_newline left other) later
    rw [List.dropLast_cons_of_ne_nil more.ne_nil]
    simpa using whole

def Diagnostic.lowered (lines : Nat) (d : Diagnostic) : Diagnostic := { d with line := d.line + lines }

namespace Scan

variable {first second : String}

structure Joined (first second : String) (line : Nat) : Prop where
  items : ∃ front, (Lexer.ofText first).items = front ++ [.ok (.finish line)] ∧
    (Lexer.ofText (first ++ "\n" ++ second)).items = front ++ (Lexer.ofText second).items.map (lowered line)
  tokens : (ofText (first ++ "\n" ++ second)).tokens =
    (ofText first).tokens.dropLast ++ (ofText second).tokens.map (.lowered line)
  diagnostics : (ofText (first ++ "\n" ++ second)).diagnostics =
    (ofText first).diagnostics ++ (ofText second).diagnostics.map (.lowered line)

/-- A text that does not end inside a string, and what is behind its line end, are scanned one after the other. -/
theorem joined_at_newline (closed : ∀ e ∈ (ofText first).errors, e.fault ≠ .unterminatedString) :
    Joined first second (1 + first.toList.count '\n') := by
  obtain ⟨front, split⟩ := Lexer.items_end first
  have whole : (Lexer.ofText (first ++ "\n" ++ second)).items =
      front ++ (Lexer.ofText second).items.map (lowered (1 + first.toList.count '\n')) := by
    have below := (Lexer.yields_ofText second).lowered (1 + first.toList.count '\n')
    rw [Nat.add_comm 1] at below
    have joined := (Lexer.yields_ofText first).joined (fun n member => closed _ (mem_errors_iff.mpr member) rfl) below
    rw [split, List.dropLast_concat] at joined
    exact Lexer.items_of_yields (by simpa using joined)
  refine ⟨⟨front, split, whole⟩, ?_, ?_⟩
  · have finish : Except.toOption (.ok (.finish (1 + first.toList.count '\n')) : Except LexicalError Token) =
        some _ := rfl
    rw [tokens_eq, tokens_eq first, tokens_eq second, whole, split, List.filterMap_append, List.filterMap_append,
      lowered, filterMap_toOption_revised, List.filterMap_cons_some finish, List.filterMap_nil, List.dropLast_concat]
  · have finish : error? (.ok (.finish (1 + first.toList.count '\n'))) = none := rfl
    simp only [diagnostics, errors_eq, whole, split]
    rw [List.filterMap_append, List.map_append, lowered, filterMap_error?_revised, List.filterMap_append,
      List.filterMap_cons_none finish, List.filterMap_nil, List.append_nil, List.map_map, List.map_map]
    rfl

theorem mark_joined_at_newline : (∀ e ∈ (ofText "@ // b\n1. /!").errors, e.fault ≠ .unterminatedString) ∧
    Joined "@ // b\n1. /!" "= \"c\nd\" #" 2 := by
  have closed : ∀ e ∈ (ofText "@ // b\n1. /!").errors, e.fault ≠ .unterminatedString := by decide +kernel
  exact ⟨closed, joined_at_newline closed⟩

end Scan

end Reckon
