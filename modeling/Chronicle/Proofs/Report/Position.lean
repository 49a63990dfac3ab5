import Mathlib.Data.List.TakeWhile
import Chronicle.Report

/-!
# Positions in a source

The lines of a source follow one another without a gap.  A position tells its
line and its column there, so different offsets have different positions.  Where
only newlines break lines, the position of a character counts the newlines
before it and the characters behind the last of them.
-/

namespace Chronicle.Report

/-! ## Placed lines -/

section

variable {source : List Char}

theorem placeLines_append (offset : Nat) (front back : List (List Char)) :
    placeLines offset (front ++ back) =
      placeLines offset front ++ placeLines (offset + front.flatten.length) back := by
  induction front generalizing offset with
  | nil => rfl
  | cons text rest inductionHypothesis =>
      have shifted : offset + text.length + rest.flatten.length =
          offset + (text :: rest).flatten.length := by
        rw [List.flatten_cons, List.length_append, Nat.add_assoc]
      rw [List.cons_append, placeLines, placeLines, inductionHypothesis, shifted, List.cons_append]

@[simp]
theorem length_placeLines (offset : Nat) (texts : List (List Char)) :
    (placeLines offset texts).length = texts.length := by
  induction texts generalizing offset with
  | nil => rfl
  | cons text rest inductionHypothesis =>
      rw [placeLines, List.length_cons, inductionHypothesis, List.length_cons]

/-- Lines start behind what comes before them and within the whole text. -/
theorem offset_of_mem_placeLines
    {offset : Nat} {texts : List (List Char)} {line : Line}
    (member : line ∈ placeLines offset texts) :
    offset ≤ line.offset ∧ line.offset ≤ offset + texts.flatten.length := by
  induction texts generalizing offset with
  | nil => cases member
  | cons text rest inductionHypothesis =>
      rw [List.flatten_cons, List.length_append]
      rcases List.mem_cons.mp member with rfl | inRest
      · exact ⟨Nat.le_refl offset, Nat.le_add_right offset _⟩
      · obtain ⟨behind, within⟩ := inductionHypothesis inRest
        constructor <;> omega

/-! ## Lines of an offset -/

/-- The line of an offset stands at its number and does not start behind the
offset. -/
theorem line_of_lineAt?
    {offset number : Nat} {line : Line}
    (found : lineAt? source offset = some (number, line)) :
    (lines source)[number]? = some line ∧ line.offset ≤ offset ∧ offset ≤ source.length := by
  rw [lineAt?] at found
  split at found
  · cases found
  · rename_i within
    obtain ⟨last, isLast, same⟩ := Option.map_eq_some_iff.mp found
    obtain ⟨isNumber, rfl⟩ := Prod.mk.inj same
    have started : last.offset ≤ offset := by
      simpa using List.mem_takeWhile_imp (List.mem_of_getLast? isLast)
    rw [List.getLast?_eq_getElem?, isNumber] at isLast
    obtain ⟨further, split⟩ := List.takeWhile_prefix
      (l := lines source) fun line : Line => decide (line.offset ≤ offset)
    have isShort := (List.getElem?_eq_some_iff.mp isLast).1
    have atNumber : (lines source)[number]? = some last := by
      rw [← split, List.getElem?_append_left isShort, isLast]
    exact ⟨atNumber, started, Nat.le_of_not_lt within⟩

theorem lineAt?_of_passed
    {offset : Nat} {passed : List Line} {line : Line}
    (within : offset ≤ source.length)
    (isPassed : ((lines source).takeWhile fun line => decide (line.offset ≤ offset)) =
      passed ++ [line]) :
    lineAt? source offset = some (passed.length, line) := by
  rw [lineAt?, if_neg (Nat.not_lt_of_le within)]
  simp only [isPassed, List.getLast?_concat, List.length_append, List.length_singleton,
    Nat.add_sub_cancel, Option.map_some]

/-- Different offsets have different positions. -/
theorem position?_injective
    {offset other : Nat} {position : Nat × Nat}
    (found : position? source offset = some position)
    (otherFound : position? source other = some position) :
    offset = other := by
  obtain ⟨⟨number, line⟩, isLine, rfl⟩ := Option.map_eq_some_iff.mp found
  obtain ⟨⟨otherNumber, otherLine⟩, isOther, same⟩ := Option.map_eq_some_iff.mp otherFound
  obtain ⟨sameNumber, sameColumn⟩ := Prod.mk.inj same
  obtain ⟨atNumber, started, _⟩ := line_of_lineAt? isLine
  obtain ⟨atOther, otherStarted, _⟩ := line_of_lineAt? isOther
  have numbers : otherNumber = number := Nat.add_right_cancel sameNumber
  rw [numbers, atNumber, Option.some.injEq] at atOther
  subst atOther
  dsimp only at sameColumn
  omega

/-! ## Newlines -/

/-- Only newlines break the lines of a text. -/
def OnlyNewlines (text : List Char) : Prop :=
  ∀ character ∈ text, isSeparator character = true → character = '\n'

instance (text : List Char) : Decidable (OnlyNewlines text) :=
  List.decidableBAll (fun character => isSeparator character = true → character = '\n') text

/-- How many characters there are behind the last newline. -/
def lengthOfLast (text : List Char) : Nat :=
  (text.reverse.takeWhile fun character => character != '\n').length

/-- Line and column of what comes behind a text, counted from one. -/
def positionBehind (before : List Char) : Nat × Nat :=
  (before.count '\n' + 1, lengthOfLast before + 1)

theorem lengthOfLast_append_newline (front back : List Char) :
    lengthOfLast (front ++ '\n' :: back) = lengthOfLast back := by
  rw [lengthOfLast, List.reverse_append, List.reverse_cons, List.append_assoc, lengthOfLast,
    List.singleton_append, List.takeWhile_append]
  split
  · rename_i whole
    rw [List.takeWhile_cons_of_neg (by simp), List.append_nil, ← whole]
  · rfl

theorem lengthOfLast_of_not_mem
    {text : List Char}
    (noNewline : '\n' ∉ text) :
    lengthOfLast text = text.length := by
  have whole : text.reverse.takeWhile (fun character => character != '\n') = text.reverse := by
    rw [List.takeWhile_eq_self_iff]
    intro character member
    have different : character ≠ '\n' := fun same =>
      noNewline (same ▸ List.mem_reverse.mp member)
    simpa using different
  rw [lengthOfLast, whole, List.length_reverse]

/-! ## Lines behind lines -/

theorem splitLines_newline (rest line : List Char) :
    splitLines ('\n' :: rest) line = ('\n' :: line).reverse :: splitLines rest [] := by
  rw [splitLines, if_pos (by decide)]
  simp

theorem splitLines_of_not_separator
    {character : Char}
    (inLine : isSeparator character = false)
    (rest line : List Char) :
    splitLines (character :: rest) line = splitLines rest (character :: line) := by
  have noReturn : character ≠ '\r' := by
    rintro rfl
    exact absurd inLine (by decide)
  rw [splitLines, if_neg (by simp [inLine])]
  exact fun _ isReturn => absurd isReturn noReturn

/-- What has been read of a line is part of the first line to come. -/
theorem exists_first_line
    (rest : List Char) {line : List Char}
    (started : line ≠ []) :
    ∃ first further, splitLines rest line = first :: further ∧ line.length ≤ first.length := by
  fun_induction splitLines rest line with
  | case1 line isEmpty => exact absurd (List.isEmpty_iff.mp isEmpty) started
  | case2 line => exact ⟨_, _, rfl, by simp⟩
  | case3 rest line => exact ⟨_, _, rfl, by simp⟩
  | case4 character rest line _ isBreak => exact ⟨_, _, rfl, by simp⟩
  | case5 character rest line _ noBreak inductionHypothesis =>
      obtain ⟨first, further, isFirst, long⟩ := inductionHypothesis (by simp)
      exact ⟨first, further, isFirst, Nat.le_of_succ_le long⟩

/-- The next character is part of the first line to come. -/
theorem exists_line_of_character (character : Char) (after line : List Char) :
    ∃ first further, splitLines (character :: after) line = first :: further ∧
      line.length < first.length := by
  by_cases isBreak : isSeparator character = true
  · by_cases isPair : character = '\r' ∧ after.head? = some '\n'
    · obtain ⟨rfl, isHead⟩ := isPair
      obtain ⟨rest, rfl⟩ := List.head?_eq_some_iff.mp isHead
      exact ⟨_, _, rfl, by simp⟩
    · have alone : ∀ rest, character = '\r' → after = '\n' :: rest → False := by
        rintro rest rfl rfl
        exact isPair ⟨rfl, rfl⟩
      rw [splitLines, if_pos isBreak]
      · exact ⟨_, _, rfl, by simp⟩
      · exact alone
  · rw [splitLines_of_not_separator (by simpa using isBreak)]
    exact exists_first_line after (List.cons_ne_nil character line)

/-- The newlines before a character end as many lines, and what follows the last
of them is part of the line of the character. -/
theorem exists_lines_before
    {before : List Char}
    (newlines : OnlyNewlines before)
    (character : Char) (after : List Char) {line : List Char}
    (inLine : '\n' ∉ line) :
    ∃ complete current further,
      splitLines (before ++ character :: after) line = complete ++ current :: further ∧
      complete.length = before.count '\n' ∧
      complete.flatten.length + lengthOfLast (line.reverse ++ before) =
        line.length + before.length ∧
      lengthOfLast (line.reverse ++ before) < current.length := by
  induction before generalizing line with
  | nil =>
      have noneComplete : lengthOfLast (line.reverse ++ []) = line.length := by
        rw [List.append_nil, lengthOfLast_of_not_mem (by simpa using inLine), List.length_reverse]
      rw [noneComplete]
      obtain ⟨current, further, split, long⟩ := exists_line_of_character character after line
      exact ⟨[], current, further, split, rfl, by simp, long⟩
  | cons head rest inductionHypothesis =>
      obtain ⟨headNewline, restNewlines⟩ := List.forall_mem_cons.mp newlines
      by_cases isNewline : head = '\n'
      · subst isNewline
        -- The line that was being read is complete, and the next one is empty so far.
        obtain ⟨complete, current, further, split, count, length, long⟩ :=
          inductionHypothesis restNewlines (List.not_mem_nil (a := '\n'))
        rw [lengthOfLast_append_newline]
        refine ⟨('\n' :: line).reverse :: complete, current, further, ?_, ?_, ?_, long⟩
        · rw [List.cons_append, splitLines_newline, split, List.cons_append]
        · rw [List.length_cons, count, List.count_cons_self]
        · simp only [List.flatten_cons, List.length_append, List.length_reverse,
            List.length_cons, List.reverse_nil, List.nil_append, List.length_nil] at length ⊢
          omega
      · have notBreak : isSeparator head = false := by
          simpa using fun isBreak => isNewline (headNewline isBreak)
        have stillInLine : '\n' ∉ head :: line := by
          simpa using ⟨fun same => isNewline same.symm, inLine⟩
        obtain ⟨complete, current, further, split, count, length, long⟩ :=
          inductionHypothesis restNewlines stillInLine
        have moved : (head :: line).reverse ++ rest = line.reverse ++ head :: rest := by simp
        rw [moved] at length long
        refine ⟨complete, current, further, ?_, ?_, ?_, long⟩
        · rw [List.cons_append, splitLines_of_not_separator notBreak, split]
        · rw [count, List.count_cons_of_ne isNewline]
        · rw [length, List.length_cons, List.length_cons]
          omega

/-- The position of a character counts newlines and the characters behind the
last one. -/
theorem position?_of_character
    {before : List Char}
    (newlines : OnlyNewlines before)
    (character : Char) (after : List Char) :
    position? (before ++ character :: after) before.length = some (positionBehind before) := by
  obtain ⟨complete, current, further, split, count, length, long⟩ :=
    exists_lines_before newlines character after (List.not_mem_nil (a := '\n'))
  simp only [List.reverse_nil, List.nil_append, List.length_nil, Nat.zero_add] at length long
  have started : ∀ line ∈ placeLines 0 complete,
      decide (line.offset ≤ before.length) = true := by
    intro line member
    have bounds := offset_of_mem_placeLines member
    simp only [decide_eq_true_eq]
    omega
  have notStarted : ((placeLines (complete.flatten.length + current.length) further).takeWhile
      fun line => decide (line.offset ≤ before.length)) = [] := by
    cases further with
    | nil => rfl
    | cons text rest =>
        rw [placeLines, List.takeWhile_cons_of_neg]
        simp only [decide_eq_true_eq]
        omega
  have isCurrent : decide (complete.flatten.length ≤ before.length) = true := by
    simp only [decide_eq_true_eq]
    omega
  have passed : ((lines (before ++ character :: after)).takeWhile
      fun line => decide (line.offset ≤ before.length)) =
      placeLines 0 complete ++ [⟨complete.flatten.length, current⟩] := by
    rw [lines, split, placeLines_append, List.takeWhile_append_of_pos started, placeLines,
      Nat.zero_add, List.takeWhile_cons, notStarted]
    simp only [isCurrent, if_true]
  have column : before.length - complete.flatten.length = lengthOfLast before := by omega
  rw [position?, lineAt?_of_passed (by simp) passed, length_placeLines, count, positionBehind,
    ← column]
  rfl

/-- Every offset up to the end of a source that is not empty has a position. -/
theorem exists_position?
    {offset : Nat}
    (nonempty : source ≠ [])
    (within : offset ≤ source.length) :
    ∃ position, position? source offset = some position := by
  obtain ⟨character, after, rfl⟩ := List.exists_cons_of_ne_nil nonempty
  obtain ⟨first, further, split, _⟩ := exists_line_of_character character after []
  have isPassed : (lines (character :: after)).takeWhile
      (fun line => decide (line.offset ≤ offset)) ≠ [] := by
    rw [lines, split, placeLines, List.takeWhile_cons_of_pos (by simp)]
    exact List.cons_ne_nil _ _
  have isLast := List.dropLast_concat_getLast isPassed
  exact ⟨_, by rw [position?, lineAt?_of_passed within isLast.symm, Option.map_some]⟩

end

end Chronicle.Report
