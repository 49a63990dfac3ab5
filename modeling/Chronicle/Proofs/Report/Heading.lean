import Mathlib.Data.String.Basic
import Chronicle.Proofs.Annotated
import Chronicle.Proofs.Report.Position

/-!
# Headings of reports

A report is headed by the message and by a line with the file, the line and the
column.  The offset of a fault counts bytes, but a report takes it as a number
of characters.  So it points at the right place only behind characters of one
byte each.
-/

namespace Chronicle

/-! ## Headings -/

/-- The report starts with the message and, indented in a line of its own, the
file with line and column. -/
def Heads (report message filename : String) (line column : Nat) : Prop :=
  ∃ margin rest : String, (∀ character ∈ margin.toList, character = ' ') ∧
    report = s!"Error: {message}\n{margin}╭─[{filename}:{line}:{column}]\n{rest}"

section

variable {message filename report : String} {line column : Nat}

/-- A text has one part before a separator that is not in it. -/
theorem split_unique
    {separator : Char} {front back otherFront otherBack : List Char}
    (same : front ++ separator :: back = otherFront ++ separator :: otherBack)
    (notInFront : separator ∉ front)
    (notInOther : separator ∉ otherFront) :
    front = otherFront ∧ back = otherBack := by
  induction front generalizing otherFront with
  | nil =>
      cases otherFront with
      | nil => exact ⟨rfl, (List.cons.inj same).2⟩
      | cons head rest =>
          have isHead : separator = head := (List.cons.inj same).1
          exact absurd (isHead ▸ List.mem_cons_self) notInOther
  | cons head rest inductionHypothesis =>
      cases otherFront with
      | nil =>
          have isHead : head = separator := (List.cons.inj same).1
          exact absurd (isHead ▸ List.mem_cons_self) notInFront
      | cons otherHead otherRest =>
          obtain ⟨rfl, sameRest⟩ := List.cons.inj same
          obtain ⟨rfl, sameBack⟩ := inductionHypothesis sameRest
            (fun member => notInFront (List.mem_cons_of_mem _ member))
            (fun member => notInOther (List.mem_cons_of_mem _ member))
          exact ⟨rfl, sameBack⟩

theorem isDigit_of_mem_toString
    {number : Nat} {character : Char}
    (member : character ∈ (toString number).toList) :
    character.isDigit = true := by
  rw [Nat.toString_eq_ofList_toDigits, String.toList_ofList] at member
  exact Nat.isDigit_of_mem_toDigits (by decide) (by decide) member

theorem not_mem_toString
    {separator : Char}
    (noDigit : separator.isDigit = false) (number : Nat) :
    separator ∉ (toString number).toList := by
  intro member
  rw [isDigit_of_mem_toString member] at noDigit
  cases noDigit

theorem eq_of_toString
    {number other : Nat}
    (same : (toString number).toList = (toString other).toList) :
    number = other := by
  simp only [Nat.toString_eq_ofList_toDigits, String.toList_ofList] at same
  calc
    number = Nat.ofDigitChars 10 (Nat.toDigits 10 number) 0 := Nat.ofDigitChars_ten_toDigits.symm
    _ = Nat.ofDigitChars 10 (Nat.toDigits 10 other) 0 := by rw [same]
    _ = other := Nat.ofDigitChars_ten_toDigits

/-- The characters of a headed report. -/
theorem toList_heading (margin rest : String) :
    (s!"Error: {message}\n{margin}╭─[{filename}:{line}:{column}]\n{rest}").toList =
      "Error: ".toList ++ (message.toList ++ '\n' :: (margin.toList ++ '╭' :: '─' :: '[' ::
        (filename.toList ++ ':' :: ((toString line).toList ++ ':' ::
          ((toString column).toList ++ ']' :: '\n' :: rest.toList))))) := by
  have newline : "\n".toList = ['\n'] := by decide
  have corner : "╭─[".toList = ['╭', '─', '['] := by decide
  have colon : ":".toList = [':'] := by decide
  have closing : "]\n".toList = [']', '\n'] := by decide
  simp only [toString, String.toList_append, newline, corner, colon, closing, List.append_assoc,
    List.cons_append, List.nil_append]

/-- A report has at most one heading. -/
theorem Heads.unique
    {otherLine otherColumn : Nat}
    (heads : Heads report message filename line column)
    (otherHeads : Heads report message filename otherLine otherColumn) :
    line = otherLine ∧ column = otherColumn := by
  obtain ⟨margin, rest, blank, rfl⟩ := heads
  obtain ⟨otherMargin, otherRest, otherBlank, same⟩ := otherHeads
  have characters := congrArg String.toList same
  rw [toList_heading, toList_heading] at characters
  -- The file names agree and may hold anything.  No margin holds a corner, no number a colon.
  have fromMargin := (List.cons.inj (List.append_cancel_left (List.append_cancel_left characters))).2
  have noCorner : ∀ {text : String}, (∀ character ∈ text.toList, character = ' ') →
      '╭' ∉ text.toList := fun blank member => absurd (blank '╭' member) (by decide)
  obtain ⟨_, fromCorner⟩ := split_unique fromMargin (noCorner blank) (noCorner otherBlank)
  have fromFile := (List.cons.inj (List.cons.inj fromCorner).2).2
  have fromLine := (List.cons.inj (List.append_cancel_left fromFile)).2
  obtain ⟨sameLine, fromColumn⟩ := split_unique fromLine
    (not_mem_toString (by decide) line) (not_mem_toString (by decide) otherLine)
  obtain ⟨sameColumn, _⟩ := split_unique fromColumn
    (not_mem_toString (by decide) column) (not_mem_toString (by decide) otherColumn)
  exact ⟨eq_of_toString sameLine, eq_of_toString sameColumn⟩

/-- The message alone is no heading. -/
theorem not_heads_message : ¬ Heads s!"Error: {message}\n" message filename line column := by
  rintro ⟨margin, rest, _, same⟩
  have characters := congrArg String.toList same
  have newline : "\n".toList = ['\n'] := by decide
  rw [toList_heading] at characters
  simp [toString, newline] at characters

end

/-! ## Spans -/

namespace Report

section

variable {source : List Char} {start stop : Nat}

theorem exists_lineAt?_iff
    (nonempty : source ≠ []) (offset : Nat) :
    (∃ found, lineAt? source offset = some found) ↔ offset ≤ source.length := by
  constructor
  · rintro ⟨⟨number, line⟩, found⟩
    exact (line_of_lineAt? found).2.2
  · intro within
    obtain ⟨position, isPosition⟩ := exists_position? nonempty within
    obtain ⟨found, isFound, _⟩ := Option.map_eq_some_iff.mp isPosition
    exact ⟨found, isFound⟩

theorem span_of_increasing
    (increases : start < stop) :
    Span.of? source start stop =
      (lineAt? source start).bind fun first =>
        (lineAt? source (stop - 1)).map fun last => ⟨start, stop, first.1, last.1⟩ := by
  rw [Span.of?]
  cases lineAt? source start with
  | none => rfl
  | some first =>
      simp only [Option.bind_eq_bind, Option.bind_some, Nat.not_le_of_lt increases, if_false]
      cases lineAt? source (stop - 1) <;> rfl

/-- A span that is not empty is shown if its last character lies at most just
behind the source. -/
theorem exists_span_iff
    (nonempty : source ≠ [])
    (increases : start < stop) :
    (∃ span, Span.of? source start stop = some span) ↔ stop ≤ source.length + 1 := by
  have atStart := exists_lineAt?_iff nonempty start
  have atLast := exists_lineAt?_iff nonempty (stop - 1)
  rw [span_of_increasing increases]
  constructor
  · rintro ⟨span, isSpan⟩
    obtain ⟨_, _, isSpan⟩ := Option.bind_eq_some_iff.mp isSpan
    obtain ⟨last, isLast, _⟩ := Option.map_eq_some_iff.mp isSpan
    have within := atLast.mp ⟨last, isLast⟩
    omega
  · intro within
    obtain ⟨first, isFirst⟩ := atStart.mpr (by omega)
    obtain ⟨last, isLast⟩ := atLast.mpr (by omega)
    exact ⟨_, by rw [isFirst, isLast, Option.bind_some, Option.map_some]⟩

/-- A span that is shown is preceded by a row with the file and the position. -/
theorem rowsOf_of_span
    {span : Span} {line column : Nat}
    (isSpan : Span.of? source start stop = some span)
    (isPosition : position? source start = some (line, column))
    (filename message : String) :
    ∃ margin further, (∀ character ∈ margin, character = ' ') ∧
      rowsOf source filename message start stop =
        ("Error: " ++ message).toList ::
          (margin ++ '╭' :: '─' :: (s!"[{filename}:{line}:{column}]").toList) :: further := by
  refine ⟨List.replicate ((toString (span.lastLine + 1)).length + 2) ' ',
    (rowsOf source filename message start stop).drop 2, fun _ => List.eq_of_mem_replicate, ?_⟩
  simp only [rowsOf, isSpan, isPosition, List.append_assoc, List.cons_append, List.nil_append,
    List.drop_succ_cons, List.drop_zero]

/-- The text of rows, each in a line. -/
def textOf (rows : List (List Char)) : String :=
  String.ofList (rows.flatMap fun row => row ++ ['\n'])

theorem heads_of_span
    {span : Span} {line column : Nat}
    (isSpan : Span.of? source start stop = some span)
    (isPosition : position? source start = some (line, column))
    (filename message : String) :
    Heads (textOf (rowsOf source filename message start stop)) message filename line column := by
  obtain ⟨margin, further, blank, rows⟩ := rowsOf_of_span isSpan isPosition filename message
  refine ⟨String.ofList margin, textOf further, ?_, ?_⟩
  · intro character member
    rw [String.toList_ofList] at member
    exact blank character member
  · have opening : "[".toList = ['['] := by decide
    have colon : ":".toList = [':'] := by decide
    have closing : "]".toList = [']'] := by decide
    apply String.toList_inj.mp
    rw [toList_heading, rows, textOf, textOf]
    simp only [List.flatMap_cons, String.toList_ofList, toString, String.toList_append, opening,
      colon, closing, List.append_assoc, List.cons_append, List.nil_append]

theorem rowsOf_of_no_span
    (noSpan : Span.of? source start stop = none)
    (filename message : String) :
    rowsOf source filename message start stop = [("Error: " ++ message).toList] := by
  rw [rowsOf, noSpan]

/-- A report is headed by the position of its span if it shows the span, and by
none if it does not. -/
theorem heads_rowsOf_iff
    (nonempty : source ≠ [])
    (increases : start < stop)
    (filename message : String) (line column : Nat) :
    Heads (textOf (rowsOf source filename message start stop)) message filename line column ↔
      stop ≤ source.length + 1 ∧ position? source start = some (line, column) := by
  rw [← exists_span_iff nonempty increases]
  cases shown : Span.of? source start stop with
  | none =>
      have alone : textOf [("Error: " ++ message).toList] = s!"Error: {message}\n" := by
        have newline : "\n".toList = ['\n'] := by decide
        apply String.toList_inj.mp
        simp only [textOf, List.flatMap_cons, List.flatMap_nil, List.append_nil, toString,
          String.toList_ofList, String.toList_append, newline]
      rw [rowsOf_of_no_span shown, alone]
      constructor
      · exact fun heads => absurd heads not_heads_message
      · rintro ⟨⟨span, ⟨⟩⟩, _⟩
  | some span =>
      have within := (exists_span_iff nonempty increases).mp ⟨span, shown⟩
      obtain ⟨⟨shownLine, shownColumn⟩, isPosition⟩ :=
        exists_position? nonempty (show start ≤ source.length by omega)
      have heads := heads_of_span shown isPosition filename message
      rw [isPosition]
      constructor
      · intro otherHeads
        obtain ⟨rfl, rfl⟩ := heads.unique otherHeads
        exact ⟨⟨span, rfl⟩, rfl⟩
      · rintro ⟨_, ⟨⟩⟩
        exact heads

end

end Report

namespace Fault

open Report (OnlyNewlines position? positionBehind rowsOf textOf)

/-! ## Bytes -/

theorem widthAt_behind (before after : List Char) (character : Char) :
    widthAt (before ++ character :: after) (String.utf8Len before) = character.utf8Size := by
  induction before with
  | nil => rw [List.nil_append, String.utf8Len_nil, widthAt]
  | cons head rest inductionHypothesis =>
      have positive := head.utf8Size_pos
      rw [List.cons_append, String.utf8Len_cons, widthAt, if_neg (by omega), Nat.add_sub_cancel,
        inductionHypothesis]
      omega

theorem length_le_utf8Len (text : List Char) : text.length ≤ String.utf8Len text := by
  induction text with
  | nil => exact Nat.le_refl 0
  | cons head rest inductionHypothesis =>
      have positive := head.utf8Size_pos
      rw [List.length_cons, String.utf8Len_cons]
      omega

/-- A text has as many characters as bytes if each of them takes one byte. -/
theorem utf8Len_eq_length_iff
    {text : List Char} :
    String.utf8Len text = text.length ↔ ∀ character ∈ text, character.utf8Size = 1 := by
  induction text with
  | nil => simp
  | cons head rest inductionHypothesis =>
      have positive := head.utf8Size_pos
      have bounded := length_le_utf8Len rest
      rw [List.length_cons, String.utf8Len_cons, List.forall_mem_cons, ← inductionHypothesis]
      omega

/-! ## Reports of faults -/

section

variable {fault : Fault} {cause : LoadCause} {locator : Option String}
  {source filename : String} {before after : String} {character : Char}

theorem report_eq_textOf
    {offset : Nat}
    (root : fault.root = .load cause locator (some offset)) :
    fault.report source filename =
      textOf (rowsOf source.toList filename fault.root.message (min offset source.utf8ByteSize)
        (min offset source.utf8ByteSize +
          widthAt source.toList (min offset source.utf8ByteSize))) := by
  unfold report
  split
  · rename_i isLoad
    cases root.symm.trans isLoad
    rfl
  · rename_i noLoad
    exact absurd root (noLoad cause locator offset)

/-- The report of a fault with the byte offset of a character is headed by the
position of the character that has as many characters before it. -/
theorem heads_report_iff
    (root : fault.root = .load cause locator (some before.utf8ByteSize))
    (isSource : source.toList = before.toList ++ character :: after.toList)
    (line column : Nat) :
    Heads (fault.report source filename) fault.root.message filename line column ↔
      before.utf8ByteSize + character.utf8Size ≤ source.length + 1 ∧
        position? source.toList before.utf8ByteSize = some (line, column) := by
  have size : source.utf8ByteSize =
      before.utf8ByteSize + (String.utf8Len after.toList + character.utf8Size) := by
    rw [← String.utf8Len_toList, isSource, String.utf8Len_append, String.utf8Len_cons,
      String.utf8Len_toList]
  have within : min before.utf8ByteSize source.utf8ByteSize = before.utf8ByteSize := by omega
  have width : widthAt source.toList before.utf8ByteSize = character.utf8Size := by
    rw [isSource, ← String.utf8Len_toList, widthAt_behind]
  have nonempty : source.toList ≠ [] := by simp [isSource]
  have increases : before.utf8ByteSize < before.utf8ByteSize + character.utf8Size :=
    Nat.lt_add_of_pos_right character.utf8Size_pos
  rw [report_eq_textOf root, within, width,
    Report.heads_rowsOf_iff nonempty increases, String.length_toList]

/-- The report of a fault with the byte offset of a character is headed by the
line and the column of this character exactly if all characters before it have
one byte each and it does not reach more than one character past the source when
its bytes are counted as characters.  In general it is headed by the position of
the character that has as many characters before it as the offset says. -/
theorem report_position
    (root : fault.root = .load cause locator (some before.utf8ByteSize))
    (isSource : source.toList = before.toList ++ character :: after.toList)
    (newlines : OnlyNewlines source.toList) :
    (Heads (fault.report source filename) fault.root.message filename
        (positionBehind before.toList).1 (positionBehind before.toList).2 ↔
      (∀ earlier ∈ before.toList, earlier.utf8Size = 1) ∧
        character.utf8Size ≤ after.length + 2) ∧
    ∀ front next back, source.toList = front ++ next :: back →
      front.length = before.utf8ByteSize →
      (Heads (fault.report source filename) fault.root.message filename
          (positionBehind front).1 (positionBehind front).2 ↔
        before.utf8ByteSize + character.utf8Size ≤ source.length + 1) := by
  have length : source.length = before.length + (after.length + 1) := by
    rw [← String.length_toList, isSource, List.length_append, List.length_cons,
      String.length_toList, String.length_toList]
  have oneByte : (∀ earlier ∈ before.toList, earlier.utf8Size = 1) ↔
      before.utf8ByteSize = before.length := by
    rw [← utf8Len_eq_length_iff, String.utf8Len_toList, String.length_toList]
  -- The position of the characters before an offset, whichever they are.
  have placed : ∀ front next back, source.toList = front ++ next :: back →
      position? source.toList front.length = some (positionBehind front) := by
    intro front next back split
    have inFront : OnlyNewlines front := by
      intro character member
      exact newlines character (split ▸ List.mem_append_left _ member)
    rw [split]
    exact Report.position?_of_character inFront next back
  constructor
  · have isPlaced := placed before.toList character after.toList isSource
    rw [heads_report_iff root isSource, oneByte]
    constructor
    · rintro ⟨within, isPosition⟩
      have same := Report.position?_injective isPosition isPlaced
      rw [String.length_toList] at same
      exact ⟨same, by omega⟩
    · rintro ⟨same, within⟩
      rw [String.length_toList] at isPlaced
      rw [same]
      exact ⟨by omega, isPlaced⟩
  · intro front next back split counted
    have isPlaced := placed front next back split
    rw [counted] at isPlaced
    rw [heads_report_iff root isSource]
    exact ⟨fun heads => heads.1, fun within => ⟨within, isPlaced⟩⟩

/-- A record with an unknown field behind its description. -/
def colouredRecord (description : String) : String :=
  "description: " ++ description ++ "\ncolour: red\n"

theorem exists_located
    (text : String) (offset : Nat)
    (places : (faultOf? (Record.ofYaml text)).bind offset? = some offset) :
    ∃ fault cause, Record.ofYaml text = .error fault ∧
      fault.root = .load cause none (some offset) := by
  obtain ⟨fault, isFault, placed⟩ := Option.bind_eq_some_iff.mp places
  have failed := faultOf?_eq_some_iff.mp isFault
  obtain ⟨cause, known, rfl⟩ := unlocated_of_ofYaml failed
  cases placed
  exact ⟨_, cause, failed, rfl⟩

/-- The decoder notices an unknown field at its first character. -/
theorem report_position_colour :
    ∃ fault cause,
      Record.ofYaml (colouredRecord "e") = .error fault ∧
      fault.root = .load cause none (some "description: e\n".utf8ByteSize) ∧
      (colouredRecord "e").toList = "description: e\n".toList ++ 'c' :: "olour: red\n".toList ∧
      OnlyNewlines (colouredRecord "e").toList ∧
      Heads (fault.report (colouredRecord "e") "sheet.yml") fault.root.message "sheet.yml" 2 1 := by
  obtain ⟨fault, cause, failed, root⟩ := exists_located (colouredRecord "e")
    "description: e\n".utf8ByteSize (by decide +kernel)
  have split : (colouredRecord "e").toList =
      "description: e\n".toList ++ 'c' :: "olour: red\n".toList := by decide
  have newlines : OnlyNewlines (colouredRecord "e").toList := by decide
  have oneByte : ∀ earlier ∈ "description: e\n".toList, earlier.utf8Size = 1 :=
    utf8Len_eq_length_iff.mp (by decide)
  have within : 'c'.utf8Size ≤ "olour: red\n".length + 2 := by decide
  exact ⟨fault, cause, failed, root, split, newlines,
    (report_position root split newlines).1.mpr ⟨oneByte, within⟩⟩

/-- Behind an accented letter the report points one character too far, although
the text of the fault itself tells the place.  A report that starts at a wide
character at the end of the source has no heading. -/
theorem report_points_beside :
    (∃ fault cause,
      Record.ofYaml (colouredRecord "é") = .error fault ∧
      fault.root = .load cause none (some "description: é\n".utf8ByteSize) ∧
      (colouredRecord "é").toList = "description: é\n".toList ++ 'c' :: "olour: red\n".toList ∧
      OnlyNewlines (colouredRecord "é").toList ∧
      positionBehind "description: é\n".toList = (2, 1) ∧
      Heads (fault.report (colouredRecord "é") "sheet.yml") fault.root.message "sheet.yml" 2 2 ∧
      ¬ Heads (fault.report (colouredRecord "é") "sheet.yml") fault.root.message "sheet.yml" 2 1) ∧
    ∃ fault cause,
      Record.ofYaml "😀" = .error fault ∧
      fault.root = .load cause none (some "".utf8ByteSize) ∧
      ∀ line column,
        ¬ Heads (fault.report "😀" "sheet.yml") fault.root.message "sheet.yml" line column := by
  constructor
  · obtain ⟨fault, cause, failed, root⟩ := exists_located (colouredRecord "é")
      "description: é\n".utf8ByteSize (by decide +kernel)
    have split : (colouredRecord "é").toList =
        "description: é\n".toList ++ 'c' :: "olour: red\n".toList := by decide
    have beside : Heads (fault.report (colouredRecord "é") "sheet.yml") fault.root.message "sheet.yml" 2 2 :=
      (heads_report_iff root split 2 2).mpr (by decide)
    refine ⟨fault, cause, failed, root, split, by decide, by decide, beside, ?_⟩
    intro there
    cases (beside.unique there).2
  · obtain ⟨fault, cause, failed, root⟩ := exists_located "😀" "".utf8ByteSize (by decide +kernel)
    refine ⟨fault, cause, failed, root, ?_⟩
    intro line column heads
    have split : "😀".toList = "".toList ++ '😀' :: "".toList := by decide
    have within := ((heads_report_iff root split line column).mp heads).1
    revert within
    decide

end

end Fault

end Chronicle
