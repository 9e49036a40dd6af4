import Reckon.Token.Reading

namespace Reckon

inductive Lexeme : List Char → Symbol → Prop
  | mark (m : Mark) : Lexeme m.text.toList (.mark m)
  | string {body : List Char} (closed : '"' ∉ body) :
      Lexeme ('"' :: (body ++ ['"'])) (.string (String.ofList body))
  | whole {digits : List Char} (some : digits ≠ []) (all : ∀ c ∈ digits, c.isDigit = true) :
      Lexeme digits (.number (.ofDecimal (.ofDigits digits [])))
  | fraction {whole fraction : List Char} (someWhole : whole ≠ []) (allWhole : ∀ c ∈ whole, c.isDigit = true)
      (some : fraction ≠ []) (all : ∀ c ∈ fraction, c.isDigit = true) :
      Lexeme (whole ++ '.' :: fraction) (.number (.ofDecimal (.ofDigits whole fraction)))
  | keyword (k : Keyword) : Lexeme k.text.toList (.keyword k)
  | identifier {c : Char} {letters : List Char} (starts : Reading.startsWord c = true)
      (all : ∀ d ∈ letters, Reading.continuesWord d = true)
      (other : ∀ k : Keyword, k.text.toList ≠ c :: letters) : Lexeme (c :: letters) .identifier

namespace Reading

theorem mark?_classes {c : Char} {rest : List Char} {m : Mark} (found : mark? c rest = some m) :
    c ≠ '"' ∧ c.isDigit = false ∧ startsWord c = false := by
  unfold mark? at found
  split at found <;> first | decide | cases found

theorem isDigit_bounds {c : Char} (digit : c.isDigit = true) : 48 ≤ c.toNat ∧ c.toNat ≤ 57 := by
  simp only [Char.isDigit, ge_iff_le, Bool.and_eq_true, decide_eq_true_eq, UInt32.le_iff_toNat_le] at digit
  exact digit

theorem not_startsWord_of_isDigit {c : Char} (digit : c.isDigit = true) : startsWord c = false := by
  obtain ⟨least, most⟩ := isDigit_bounds digit
  have other : c ≠ '_' := by
    rintro rfl
    exact absurd most (by decide)
  have letter : c.isAlpha = false := by
    have low : c.val.toNat ≤ 57 := most
    have upper : 'A'.val.toNat = 65 := rfl
    have lower : 'a'.val.toNat = 97 := rfl
    delta Char.isAlpha Char.isUpper Char.isLower
    simp only [ge_iff_le, UInt32.le_iff_toNat_le, upper, lower]
    simp
    omega
  rw [startsWord, isAlphabetic, if_pos (by omega), letter, Bool.false_or, beq_eq_false_iff_ne]
  exact other

theorem continuesWord_of_startsWord {c : Char} (starts : startsWord c = true) : continuesWord c = true := by
  simp only [startsWord, Bool.or_eq_true] at starts
  simp only [continuesWord, Bool.or_eq_true]
  exact starts.imp .inl id

theorem ofText_mark {c : Char} {rest : List Char} {m : Mark} (found : mark? c rest = some m) :
    ofText c rest = ⟨m.text.toList, .ok (.mark m)⟩ := by
  simp only [ofText, found]

theorem mark?_eq_none {c : Char} {rest : List Char}
    (other : c = '"' ∨ c.isDigit = true ∨ startsWord c = true) : mark? c rest = none := by
  cases found : mark? c rest with
  | none => rfl
  | some m =>
    obtain ⟨quote, digit, letter⟩ := mark?_classes found
    rcases other with same | same | same
    · exact absurd same quote
    · rw [digit] at same; cases same
    · rw [letter] at same; cases same

theorem ofText_quote (rest : List Char) : ofText '"' rest = string rest := by
  simp only [ofText, mark?_eq_none (.inl rfl), beq_self_eq_true, ↓reduceIte]

theorem ofText_digit {c : Char} (rest : List Char) (digit : c.isDigit = true) :
    ofText c rest = number (c :: rest) := by
  have quote : (c == '"') = false := by
    rw [beq_eq_false_iff_ne]
    rintro rfl
    cases digit
  simp only [ofText, mark?_eq_none (.inr (.inl digit)), quote, digit, Bool.false_eq_true, ↓reduceIte]

theorem ofText_letter {c : Char} (rest : List Char) (starts : startsWord c = true) :
    ofText c rest = word (c :: rest) := by
  have quote : (c == '"') = false := by
    rw [beq_eq_false_iff_ne]
    rintro rfl
    exact absurd starts (by decide)
  have digit : c.isDigit = false := by
    cases digit : c.isDigit with
    | false => rfl
    | true => rw [not_startsWord_of_isDigit digit] at starts; cases starts
  simp only [ofText, mark?_eq_none (.inr (.inr starts)), quote, digit, starts, Bool.false_eq_true, ↓reduceIte]

structure Spans (p : Char → Bool) (run rest : List Char) : Prop where
  all : ∀ c ∈ run, p c = true
  ends : ∀ c after, rest = c :: after → p c = false

namespace Spans

variable {p : Char → Bool} {run rest : List Char}

theorem rest_takeWhile (spans : Spans p run rest) : rest.takeWhile p = [] := by
  cases rest with
  | nil => rfl
  | cons c after => exact List.takeWhile_cons_of_neg (by simp [spans.ends c after rfl])

theorem takeWhile_eq (spans : Spans p run rest) : (run ++ rest).takeWhile p = run := by
  rw [List.takeWhile_append_of_pos spans.all, spans.rest_takeWhile, List.append_nil]

theorem dropWhile_eq (spans : Spans p run rest) : (run ++ rest).dropWhile p = rest := by
  have whole := List.takeWhile_append_dropWhile (p := p) (l := run ++ rest)
  rw [spans.takeWhile_eq] at whole
  exact List.append_cancel_left whole

end Spans

theorem spans_takeWhile (p : Char → Bool) (text : List Char) : Spans p (text.takeWhile p) (text.dropWhile p) where
  all := List.all_eq_true.mp List.all_takeWhile
  ends := by
    intro c after same
    have fails := List.head_dropWhile_not p (l := text) (by simp [same])
    simpa only [same, List.head_cons] using fails

theorem spans_append {p : Char → Bool} {first : List Char} (all : ∀ c ∈ first, p c = true)
    (after : List Char) : Spans p (first ++ after.takeWhile p) (after.dropWhile p) where
  all := List.forall_mem_append.mpr ⟨all, (spans_takeWhile p after).all⟩
  ends := (spans_takeWhile p after).ends

theorem spans_of_all {p : Char → Bool} {run : List Char} (all : ∀ c ∈ run, p c = true) : Spans p run [] :=
  ⟨all, nofun⟩

theorem ne_quote_of_notMem {body : List Char} (closed : '"' ∉ body) : ∀ c ∈ body, (c != '"') = true := by
  intro c member
  rw [bne_iff_ne]
  rintro rfl
  exact closed member

theorem string_closed {body : List Char} (rest : List Char) (closed : '"' ∉ body) :
    string (body ++ '"' :: rest) = ⟨'"' :: (body ++ ['"']), .ok (.string (String.ofList body))⟩ := by
  have spans : Spans (· != '"') body ('"' :: rest) := by
    refine ⟨ne_quote_of_notMem closed, ?_⟩
    intro c after same
    cases same
    rfl
  simp only [string, spans.takeWhile_eq, spans.dropWhile_eq]

theorem string_open {rest : List Char} (unclosed : '"' ∉ rest) :
    string rest = ⟨'"' :: rest, .error .unterminatedString⟩ := by
  have spans := spans_of_all (ne_quote_of_notMem unclosed)
  have taken := spans.takeWhile_eq
  have left := spans.dropWhile_eq
  rw [List.append_nil] at taken left
  simp only [string, taken, left]

theorem number_fraction {whole fraction rest : List Char} (allWhole : ∀ c ∈ whole, c.isDigit = true)
    (some : fraction ≠ []) (spans : Spans Char.isDigit fraction rest) :
    number (whole ++ '.' :: (fraction ++ rest)) =
      ⟨whole ++ '.' :: fraction, .ok (.number (.ofDecimal (.ofDigits whole fraction)))⟩ := by
  have spansWhole : Spans Char.isDigit whole ('.' :: (fraction ++ rest)) := by
    refine ⟨allWhole, ?_⟩
    intro c after same
    cases same
    rfl
  simp only [number, spansWhole.takeWhile_eq, spansWhole.dropWhile_eq, spans.takeWhile_eq]

theorem number_whole {digits rest : List Char} (spans : Spans Char.isDigit digits rest)
    (pointless : ∀ c after, rest = '.' :: c :: after → c.isDigit = false) :
    number (digits ++ rest) = ⟨digits, .ok (.number (.ofDecimal (.ofDigits digits [])))⟩ := by
  simp only [number, spans.takeWhile_eq, spans.dropWhile_eq]
  split
  · rename_i after
    have none : after.takeWhile Char.isDigit = [] := by
      cases after with
      | nil => rfl
      | cons c after => exact List.takeWhile_cons_of_neg (by simp [pointless c after rfl])
    rw [none]
  · rfl

theorem number_takes (text : List Char) :
    ∃ x, (number text).result = .ok (.number x) ∧ text.takeWhile Char.isDigit <+: (number text).taken := by
  unfold number
  dsimp only
  split
  · split
    · exact ⟨_, rfl, List.prefix_refl _⟩
    · exact ⟨_, rfl, List.prefix_append _ _⟩
  · exact ⟨_, rfl, List.prefix_refl _⟩

theorem word_append {letters rest : List Char} (spans : Spans continuesWord letters rest) :
    word (letters ++ rest) =
      ⟨letters, .ok (((Keyword.ofText? (String.ofList letters)).map Symbol.keyword).getD .identifier)⟩ := by
  simp only [word, spans.takeWhile_eq]

theorem number_cases (text : List Char) :
    (∃ digits rest, text = digits ++ rest ∧ Spans Char.isDigit digits rest ∧
      ∀ c after, rest = '.' :: c :: after → c.isDigit = false) ∨
    ∃ whole fraction rest, text = whole ++ '.' :: (fraction ++ rest) ∧ (∀ c ∈ whole, c.isDigit = true) ∧
      fraction ≠ [] ∧ Spans Char.isDigit fraction rest := by
  have spans := spans_takeWhile Char.isDigit text
  have split := List.takeWhile_append_dropWhile (p := Char.isDigit) (l := text)
  by_cases pointed : ∃ c after, text.dropWhile Char.isDigit = '.' :: c :: after ∧ c.isDigit = true
  · obtain ⟨c, after, same, digit⟩ := pointed
    have more := List.takeWhile_append_dropWhile (p := Char.isDigit) (l := c :: after)
    refine .inr ⟨_, (c :: after).takeWhile Char.isDigit, (c :: after).dropWhile Char.isDigit, ?_, spans.all, ?_,
      spans_takeWhile _ _⟩
    · rw [more, ← same, split]
    · rw [List.takeWhile_cons_of_pos digit]
      exact List.cons_ne_nil _ _
  · refine .inl ⟨_, _, split.symm, spans, ?_⟩
    intro c after same
    rw [Bool.eq_false_iff]
    intro digit
    exact pointed ⟨c, after, same, digit⟩

theorem mark?_prefix {c : Char} {rest : List Char} {m : Mark} (found : mark? c rest = some m) :
    m.text.toList <+: c :: rest := by
  unfold mark? at found
  split at found <;> cases found <;> exact ⟨_, rfl⟩

end Reading

/-- What may follow a lexeme and is not read as a part of it. -/
def Symbol.Apart : Symbol → List Char → Prop
  | mark .bang, rest | mark .equal, rest | mark .greater, rest | mark .less, rest => rest.head? ≠ some '='
  | mark .slash, rest => rest.head? ≠ some '/'
  | mark _, _ | string _, _ | finish, _ => True
  | number _, rest => ∀ c after, (rest = c :: after ∨ rest = '.' :: c :: after) → c.isDigit = false
  | keyword _, rest | identifier, rest => ∀ c after, rest = c :: after → Reading.continuesWord c = false

theorem Symbol.apart_nil (s : Symbol) : s.Apart [] := by
  cases s with
  | mark m => cases m <;> first | exact True.intro | exact nofun
  | number x =>
    rintro c after (same | same) <;> cases same
  | keyword k => exact nofun
  | identifier => exact nofun
  | string text => exact True.intro
  | finish => exact True.intro

namespace Lexeme

open Reading

theorem mark?_alone {rest : List Char} (alone : rest.head? ≠ some '=') :
    mark? '!' rest = some .bang ∧ mark? '=' rest = some .equal ∧ mark? '>' rest = some .greater ∧
      mark? '<' rest = some .less := by
  cases rest with
  | nil => exact ⟨rfl, rfl, rfl, rfl⟩
  | cons d rest =>
    have other : d ≠ '=' := fun same => alone (congrArg some same)
    simp [mark?, other]

theorem mark?_append (m : Mark) {rest : List Char} (apart : (Symbol.mark m).Apart rest) :
    ∃ c cs, m.text.toList = c :: cs ∧ mark? c (cs ++ rest) = some m := by
  cases m with
  | bang => exact ⟨_, _, rfl, (mark?_alone apart).1⟩
  | equal => exact ⟨_, _, rfl, (mark?_alone apart).2.1⟩
  | greater => exact ⟨_, _, rfl, (mark?_alone apart).2.2.1⟩
  | less => exact ⟨_, _, rfl, (mark?_alone apart).2.2.2⟩
  | _ => exact ⟨_, _, rfl, rfl⟩

theorem mark?_longer {m : Mark} {c : Char} {after cs : List Char} (same : m.text.toList ++ after = c :: cs) :
    ∃ longer, mark? c cs = some longer ∧ m.text.toList.length ≤ longer.text.toList.length := by
  by_cases apart : (Symbol.mark m).Apart after
  · obtain ⟨d, ds, spelled, found⟩ := mark?_append m apart
    rw [spelled, List.cons_append] at same
    cases same
    exact ⟨m, found, Nat.le_refl _⟩
  · cases m with
    | bang | equal | greater | less =>
      obtain ⟨more, rfl⟩ := List.head?_eq_some_iff.mp (Decidable.not_not.mp apart)
      cases same
      exact ⟨_, rfl, by decide⟩
    | slash =>
      cases same
      exact ⟨_, rfl, Nat.le_refl _⟩
    | _ => exact absurd True.intro apart

theorem ofText?_other {letters : List Char} (other : ∀ k : Keyword, k.text.toList ≠ letters) :
    Keyword.ofText? (String.ofList letters) = none := by
  cases found : Keyword.ofText? (String.ofList letters) with
  | none => rfl
  | some k =>
    have spelled := congrArg String.toList (Keyword.text_eq_of_ofText? found)
    rw [String.toList_ofList] at spelled
    exact absurd spelled (other k)

theorem keyword_letters (k : Keyword) :
    ∃ c cs, k.text.toList = c :: cs ∧ startsWord c = true ∧ ∀ d ∈ cs, continuesWord d = true := by
  cases k <;> exact ⟨_, _, rfl, by decide, List.all_eq_true.mp (by decide)⟩

/-- A lexeme is read as what it is in front of everything that stays apart from it. -/
theorem ofText_append {text rest : List Char} {symbol : Symbol} (lexeme : Lexeme text symbol)
    (apart : symbol.Apart rest) :
    ∃ c cs, text = c :: cs ∧ Reading.ofText c (cs ++ rest) = ⟨text, .ok symbol⟩ := by
  cases lexeme with
  | mark m =>
    obtain ⟨c, cs, spelled, found⟩ := mark?_append m apart
    exact ⟨c, cs, spelled, ofText_mark found⟩
  | @string body closed =>
    refine ⟨_, _, rfl, ?_⟩
    rw [ofText_quote, List.append_assoc]
    exact string_closed rest closed
  | whole some all =>
    obtain ⟨c, cs, rfl⟩ := List.exists_cons_of_ne_nil some
    refine ⟨c, cs, rfl, ?_⟩
    rw [ofText_digit _ (all c List.mem_cons_self), ← List.cons_append]
    exact number_whole ⟨all, fun d after same => apart d after (.inl same)⟩
      fun d after same => apart d after (.inr same)
  | @fraction whole fraction someWhole allWhole some all =>
    obtain ⟨c, cs, rfl⟩ := List.exists_cons_of_ne_nil someWhole
    refine ⟨c, cs ++ '.' :: fraction, rfl, ?_⟩
    have spans : Spans Char.isDigit fraction rest := ⟨all, fun d after same => apart d after (.inl same)⟩
    rw [ofText_digit _ (allWhole c List.mem_cons_self)]
    simpa using number_fraction allWhole some spans
  | keyword k =>
    obtain ⟨c, cs, spelled, starts, all⟩ := keyword_letters k
    refine ⟨c, cs, spelled, ?_⟩
    have spans : Spans continuesWord (c :: cs) rest :=
      ⟨List.forall_mem_cons.mpr ⟨continuesWord_of_startsWord starts, all⟩, apart⟩
    rw [ofText_letter _ starts, ← List.cons_append, word_append spans, ← spelled, String.ofList_toList,
      Keyword.ofText?_text]
    rfl
  | @identifier c letters starts all other =>
    refine ⟨c, letters, rfl, ?_⟩
    have spans : Spans continuesWord (c :: letters) rest :=
      ⟨List.forall_mem_cons.mpr ⟨continuesWord_of_startsWord starts, all⟩, apart⟩
    rw [ofText_letter _ starts, ← List.cons_append, word_append spans, ofText?_other other]
    rfl

theorem symbol_unique {text : List Char} {s t : Symbol} (first : Lexeme text s) (second : Lexeme text t) :
    s = t := by
  obtain ⟨c, cs, rfl, read⟩ := first.ofText_append s.apart_nil
  obtain ⟨d, ds, same, again⟩ := second.ofText_append t.apart_nil
  cases same
  rw [read] at again
  injection again with _ same
  exact Except.ok.inj same

theorem ne_nil {text : List Char} {symbol : Symbol} (lexeme : Lexeme text symbol) : text ≠ [] := by
  obtain ⟨c, cs, same, -⟩ := lexeme.ofText_append symbol.apart_nil
  rw [same]
  exact List.cons_ne_nil _ _

theorem ne_finish {text : List Char} {symbol : Symbol} (lexeme : Lexeme text symbol) :
    symbol ≠ .finish := by
  cases lexeme <;> exact Symbol.noConfusion

theorem eq_mark {text : List Char} {m : Mark} (lexeme : Lexeme text (.mark m)) : text = m.text.toList := by
  cases lexeme
  rfl

theorem eq_keyword {text : List Char} {k : Keyword} (lexeme : Lexeme text (.keyword k)) :
    text = k.text.toList := by
  cases lexeme
  rfl

theorem eq_string {text : List Char} {s : String} (lexeme : Lexeme text (.string s)) :
    text = '"' :: (s.toList ++ ['"']) := by
  cases lexeme
  rw [String.toList_ofList]

theorem mark_of_equal {rest : List Char} {s : Symbol} (lexeme : Lexeme ('=' :: rest) s) :
    ∃ m, s = .mark m := by
  obtain ⟨c, cs, same, read⟩ := lexeme.ofText_append s.apart_nil
  cases same
  cases found : mark? '=' (rest ++ []) with
  | some m =>
    rw [ofText_mark found] at read
    injection read with _ result
    exact ⟨m, (Except.ok.inj result).symm⟩
  | none =>
    cases rest with
    | nil => cases found
    | cons d rest => by_cases equal : d = '=' <;> simp [mark?, equal] at found

theorem word_takes {c d : Char} {letters after cs : List Char} (starts : startsWord d = true)
    (all : ∀ e ∈ letters, continuesWord e = true) (same : d :: letters ++ after = c :: cs) :
    ∃ s, (Reading.ofText c cs).result = .ok s ∧
      (d :: letters).length ≤ (Reading.ofText c cs).taken.length := by
  have whole : ∀ e ∈ d :: letters, continuesWord e = true :=
    List.forall_mem_cons.mpr ⟨continuesWord_of_startsWord starts, all⟩
  have first : startsWord c = true := (List.cons.inj same).1 ▸ starts
  have split : c :: cs = d :: letters ++ after.takeWhile continuesWord ++ after.dropWhile continuesWord := by
    rw [← same, List.append_assoc, List.takeWhile_append_dropWhile]
  rw [ofText_letter _ first, split, word_append (spans_append whole after)]
  refine ⟨_, rfl, ?_⟩
  simp only [List.length_append]
  omega

theorem of_number {c : Char} {rest : List Char} {s : Symbol} (digit : c.isDigit = true)
    (read : (number (c :: rest)).result = .ok s) :
    Lexeme (number (c :: rest)).taken s ∧ (number (c :: rest)).taken <+: c :: rest := by
  rcases number_cases (c :: rest) with ⟨digits, after, split, spans, pointless⟩ |
    ⟨whole, fraction, after, split, all, some, spans⟩
  · rw [split, number_whole spans pointless] at read ⊢
    cases read
    refine ⟨.whole ?_ spans.all, List.prefix_append _ _⟩
    rintro rfl
    rw [spans.ends c rest split.symm] at digit
    cases digit
  · rw [split, number_fraction all some spans] at read ⊢
    cases read
    refine ⟨.fraction ?_ all some spans.all, after, by simp⟩
    rintro rfl
    cases split
    cases digit

theorem of_word {c : Char} {rest : List Char} {s : Symbol} (starts : startsWord c = true)
    (read : (word (c :: rest)).result = .ok s) :
    Lexeme (word (c :: rest)).taken s ∧ (word (c :: rest)).taken <+: c :: rest := by
  refine ⟨?_, List.takeWhile_prefix _⟩
  have taken : (c :: rest).takeWhile continuesWord = c :: rest.takeWhile continuesWord :=
    List.takeWhile_cons_of_pos (continuesWord_of_startsWord starts)
  simp only [word, taken] at read ⊢
  cases found : Keyword.ofText? (String.ofList (c :: rest.takeWhile continuesWord)) with
  | some k =>
    rw [found] at read
    cases read
    have spelled := congrArg String.toList (Keyword.text_eq_of_ofText? found)
    rw [String.toList_ofList] at spelled
    rw [← spelled]
    exact .keyword k
  | none =>
    rw [found] at read
    cases read
    refine .identifier starts (spans_takeWhile _ _).all ?_
    intro k spelled
    rw [← spelled, String.ofList_toList, Keyword.ofText?_text] at found
    cases found

theorem le_taken {text after : List Char} {symbol : Symbol} {c : Char} {cs : List Char}
    (lexeme : Lexeme text symbol) (same : text ++ after = c :: cs) :
    ∃ s, (Reading.ofText c cs).result = .ok s ∧ text.length ≤ (Reading.ofText c cs).taken.length := by
  cases lexeme with
  | mark m =>
    obtain ⟨longer, found, le⟩ := mark?_longer same
    rw [ofText_mark found]
    exact ⟨_, rfl, le⟩
  | string closed =>
    rw [List.cons_append, List.append_assoc] at same
    obtain ⟨rfl, rfl⟩ := List.cons.inj same
    rw [ofText_quote, List.singleton_append, string_closed _ closed]
    exact ⟨_, rfl, Nat.le_refl _⟩
  | whole some all =>
    obtain ⟨d, ds, rfl⟩ := List.exists_cons_of_ne_nil some
    obtain ⟨x, read, taken⟩ := number_takes (c :: cs)
    have first : c.isDigit = true := (List.cons.inj same).1 ▸ all d List.mem_cons_self
    rw [ofText_digit _ first]
    refine ⟨_, read, Nat.le_trans ?_ taken.length_le⟩
    rw [← same, List.takeWhile_append_of_pos all, List.length_append]
    exact Nat.le_add_right _ _
  | @fraction whole fraction someWhole allWhole some all =>
    obtain ⟨d, ds, rfl⟩ := List.exists_cons_of_ne_nil someWhole
    have first : c.isDigit = true := (List.cons.inj same).1 ▸ allWhole d List.mem_cons_self
    have spans := spans_append all after
    have split : c :: cs = d :: ds ++ '.' :: (fraction ++ after.takeWhile Char.isDigit ++
        after.dropWhile Char.isDigit) := by
      rw [← same, List.append_assoc fraction, List.takeWhile_append_dropWhile]
      simp
    rw [ofText_digit _ first, split, number_fraction allWhole (by simp [some]) spans]
    refine ⟨_, rfl, ?_⟩
    simp only [List.length_append, List.length_cons]
    omega
  | keyword k =>
    obtain ⟨d, ds, spelled, starts, all⟩ := keyword_letters k
    rw [spelled] at same ⊢
    exact word_takes starts all same
  | identifier starts all other => exact word_takes starts all same

theorem of_ofText {c : Char} {rest : List Char} {s : Symbol} (read : (Reading.ofText c rest).result = .ok s) :
    Lexeme (Reading.ofText c rest).taken s ∧ (Reading.ofText c rest).taken <+: c :: rest := by
  cases found : mark? c rest with
  | some m =>
    rw [ofText_mark found] at read ⊢
    cases read
    exact ⟨.mark m, mark?_prefix found⟩
  | none =>
    by_cases quote : c = '"'
    · subst c
      rw [ofText_quote] at read ⊢
      by_cases member : '"' ∈ rest
      · obtain ⟨body, after, rfl, closed⟩ := List.eq_append_cons_of_mem member
        rw [string_closed _ closed] at read ⊢
        cases read
        exact ⟨.string closed, after, by simp⟩
      · rw [string_open member] at read
        cases read
    · by_cases digit : c.isDigit = true
      · rw [ofText_digit _ digit] at read ⊢
        exact of_number digit read
      · by_cases starts : startsWord c = true
        · rw [ofText_letter _ starts] at read ⊢
          exact of_word starts read
        · simp [Reading.ofText, found, quote, digit, starts] at read

/-- Where no lexeme starts, an opening quote takes all that is left and any other character only itself. -/
theorem of_fault {c : Char} {rest : List Char} {fault : LexicalFault}
    (read : (Reading.ofText c rest).result = .error fault) :
    (c = '"' ∧ Reading.ofText c rest = ⟨c :: rest, .error .unterminatedString⟩) ∨
      (c ≠ '"' ∧ Reading.ofText c rest = ⟨[c], .error (.unexpectedCharacter c)⟩) := by
  by_cases quote : c = '"'
  · subst c
    by_cases member : '"' ∈ rest
    · obtain ⟨body, after, rfl, closed⟩ := List.eq_append_cons_of_mem member
      rw [ofText_quote, string_closed _ closed] at read
      cases read
    · exact .inl ⟨rfl, by rw [ofText_quote, string_open member]⟩
  · refine .inr ⟨quote, ?_⟩
    cases found : mark? c rest with
    | some m =>
      rw [ofText_mark found] at read
      cases read
    | none =>
      by_cases digit : c.isDigit = true
      · obtain ⟨x, number, -⟩ := number_takes (c :: rest)
        rw [ofText_digit _ digit, number] at read
        cases read
      · by_cases starts : startsWord c = true
        · rw [ofText_letter _ starts] at read
          cases read
        · simp [Reading.ofText, found, quote, digit, starts]

theorem notMem_of_blank {c : Char} {text : List Char} {s : Symbol} (lexeme : Lexeme text s)
    (other : ∀ t, s ≠ .string t) (blank : c = ' ' ∨ c = '\n') : c ∉ text := by
  have digit : c.isDigit = false := by rcases blank with rfl | rfl <;> decide
  have starting : startsWord c = false := by rcases blank with rfl | rfl <;> decide
  have continuing : continuesWord c = false := by rcases blank with rfl | rfl <;> decide
  have undigit {digits : List Char} (all : ∀ d ∈ digits, d.isDigit = true) : c ∉ digits := by
    intro member
    rw [all c member] at digit
    cases digit
  cases lexeme with
  | mark m => rcases blank with rfl | rfl <;> cases m <;> decide
  | string => exact absurd rfl (other _)
  | whole _ all => exact undigit all
  | fraction _ allWhole _ all =>
    have point : c ≠ '.' := by rcases blank with rfl | rfl <;> decide
    simp [undigit allWhole, undigit all, point]
  | keyword k => rcases blank with rfl | rfl <;> cases k <;> decide
  | identifier starts all =>
    intro member
    rcases List.mem_cons.mp member with rfl | member
    · rw [starts] at starting
      cases starting
    · rw [all c member] at continuing
      cases continuing

end Lexeme

structure Longest (ahead text : List Char) (symbol : Symbol) : Prop where
  lexeme : Lexeme text symbol
  starts : text <+: ahead
  longest : ∀ other s, Lexeme other s → other <+: ahead → other.length ≤ text.length

theorem Longest.not_nil {text : List Char} {symbol : Symbol} : ¬ Longest [] text symbol := by
  intro longest
  exact longest.lexeme.ne_nil (List.prefix_nil.mp longest.starts)

theorem Longest.unique {ahead text other : List Char} {s t : Symbol} (first : Longest ahead text s)
    (second : Longest ahead other t) : text = other ∧ s = t := by
  have le := second.longest text s first.lexeme first.starts
  have ge := first.longest other t second.lexeme second.starts
  have same : text = other :=
    (List.prefix_of_prefix_length_le first.starts second.starts le).eq_of_length (Nat.le_antisymm le ge)
  exact ⟨same, first.lexeme.symbol_unique (same ▸ second.lexeme)⟩

theorem longest_of_ofText {c : Char} {rest : List Char} {s : Symbol}
    (read : (Reading.ofText c rest).result = .ok s) :
    Longest (c :: rest) (Reading.ofText c rest).taken s := by
  obtain ⟨lexeme, starts⟩ := Lexeme.of_ofText read
  refine ⟨lexeme, starts, ?_⟩
  rintro other t another ⟨after, same⟩
  obtain ⟨_, _, le⟩ := another.le_taken same
  exact le

theorem not_lexeme_of_fault {c : Char} {rest : List Char} {fault : LexicalFault}
    (read : (Reading.ofText c rest).result = .error fault) (text : List Char) (symbol : Symbol)
    (starts : text <+: c :: rest) : ¬ Lexeme text symbol := by
  intro lexeme
  obtain ⟨after, same⟩ := starts
  obtain ⟨s, ok, _⟩ := lexeme.le_taken same
  rw [ok] at read
  cases read

end Reckon
