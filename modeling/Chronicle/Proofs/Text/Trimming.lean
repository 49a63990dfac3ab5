import Mathlib.Data.List.DropRight
import Chronicle.Text.Blank

/-!
# Trimmed texts

Trimming takes the blanks from both ends of a text and nothing else, so what it
leaves has no blank at an end, and it leaves every such text as it is.
-/

namespace Chronicle.Text

/-! ## Runs of a class -/

theorem takeWhile_append_run
    {predicate : Char → Bool} {run rest : List Char}
    (inRun : ∀ character ∈ run, predicate character = true)
    (stops : ∀ character, rest.head? = some character → predicate character = false) :
    (run ++ rest).takeWhile predicate = run := by
  rw [List.takeWhile_append_of_pos inRun]
  cases rest with
  | nil => simp
  | cons head tail => simp [stops head rfl]

theorem dropWhile_append_run
    {predicate : Char → Bool} {run rest : List Char}
    (inRun : ∀ character ∈ run, predicate character = true)
    (stops : ∀ character, rest.head? = some character → predicate character = false) :
    (run ++ rest).dropWhile predicate = rest := by
  rw [List.dropWhile_append_of_pos inRun]
  cases rest with
  | nil => rfl
  | cons head tail => simp [stops head rfl]

/-! ## Characters -/

/-- Neither the first character nor the last one is a blank. -/
structure Trimmed (characters : List Char) : Prop where
  first : ∀ character, characters.head? = some character → isBlank character = false
  last : ∀ character, characters.getLast? = some character → isBlank character = false

variable {characters : List Char} {text suffix : String}

theorem isBlank_head_of_dropWhile
    {character : Char}
    (isHead : (characters.dropWhile isBlank).head? = some character) :
    isBlank character = false := by
  have stopped := List.head?_dropWhile_not isBlank characters
  rw [isHead] at stopped
  exact stopped

/-- What trimming takes from the ends are blanks. -/
theorem exists_blanks_around (characters : List Char) :
    ∃ before after,
      (∀ character ∈ before, isBlank character = true) ∧
      (∀ character ∈ after, isBlank character = true) ∧
      characters = before ++ (trimBlanks characters ++ after) := by
  refine ⟨characters.takeWhile isBlank, (characters.dropWhile isBlank).rtakeWhile isBlank,
    fun _ => List.mem_takeWhile_imp, fun _ => List.mem_rtakeWhile_imp, ?_⟩
  have ends : trimBlanks characters = (characters.dropWhile isBlank).rdropWhile isBlank := rfl
  rw [ends, List.rdropWhile_append_rtakeWhile, List.takeWhile_append_dropWhile]

theorem trimmed_trimBlanks (characters : List Char) : Trimmed (trimBlanks characters) := by
  constructor
  · intro character isFirst
    -- Blanks are taken from the end last, which leaves the first character of what was there.
    have parts : trimBlanks characters ++ (characters.dropWhile isBlank).rtakeWhile isBlank =
        characters.dropWhile isBlank :=
      List.rdropWhile_append_rtakeWhile
    have stillFirst : (characters.dropWhile isBlank).head? = some character := by
      rw [← parts, List.head?_append, isFirst, Option.some_or]
    exact isBlank_head_of_dropWhile stillFirst
  · intro character isLast
    rw [trimBlanks, List.getLast?_reverse] at isLast
    exact isBlank_head_of_dropWhile isLast

theorem trimBlanks_of_all_blank
    (allBlank : ∀ character ∈ characters, isBlank character = true) :
    trimBlanks characters = [] := by
  rw [trimBlanks, List.dropWhile_eq_nil_iff.mpr allBlank]
  rfl

/-- Trimming leaves the part without blanks at its ends, whatever blanks are
around it. -/
theorem trimBlanks_of_blanks_around
    {before after : List Char}
    (beforeBlank : ∀ character ∈ before, isBlank character = true)
    (trimmed : Trimmed characters)
    (afterBlank : ∀ character ∈ after, isBlank character = true) :
    trimBlanks (before ++ (characters ++ after)) = characters := by
  have afterReversed : ∀ character ∈ after.reverse, isBlank character = true := by
    intro character member
    exact afterBlank character (List.mem_reverse.mp member)
  cases characters with
  | nil =>
      apply trimBlanks_of_all_blank
      intro character member
      exact (List.mem_append.mp member).elim (beforeBlank character) (afterBlank character)
  | cons head tail =>
      have fromFirst : (before ++ (head :: tail ++ after)).dropWhile isBlank =
          head :: tail ++ after :=
        dropWhile_append_run beforeBlank trimmed.first
      have toLast : (after.reverse ++ (head :: tail).reverse).dropWhile isBlank =
          (head :: tail).reverse := by
        apply dropWhile_append_run afterReversed
        intro character isLast
        rw [List.head?_reverse] at isLast
        exact trimmed.last character isLast
      rw [trimBlanks, fromFirst, List.reverse_append, toLast, List.reverse_reverse]

/-! ## Texts -/

/-- The one part of a text that is between blanks and has none at its own
ends. -/
theorem trim_eq_iff
    {text part : String} :
    trim text = part ↔
      Trimmed part.toList ∧
        ∃ before after,
          (∀ character ∈ before, isBlank character = true) ∧
          (∀ character ∈ after, isBlank character = true) ∧
          text.toList = before ++ (part.toList ++ after) := by
  rw [← String.toList_inj, trim, String.toList_ofList]
  constructor
  · intro isPart
    rw [← isPart]
    exact ⟨trimmed_trimBlanks text.toList, exists_blanks_around text.toList⟩
  · intro ⟨trimmed, before, after, beforeBlank, afterBlank, parts⟩
    rw [parts]
    exact trimBlanks_of_blanks_around beforeBlank trimmed afterBlank

theorem trim_eq_self_iff : trim text = text ↔ Trimmed text.toList := by
  rw [trim_eq_iff]
  constructor
  · exact fun ⟨trimmed, _⟩ => trimmed
  · exact fun trimmed => ⟨trimmed, [], [], by simp, by simp, by simp⟩

theorem trim_trim (text : String) : trim (trim text) = trim text := by
  rw [trim_eq_self_iff]
  exact (trim_eq_iff.mp rfl).1

theorem mem_of_mem_trim
    {character : Char}
    (member : character ∈ (trim text).toList) :
    character ∈ text.toList := by
  obtain ⟨_, before, after, _, _, parts⟩ := trim_eq_iff.mp (Eq.refl (trim text))
  rw [parts]
  exact List.mem_append_right before (List.mem_append_left after member)

/-- The ends of a joined text are those of its parts. -/
theorem trim_append
    (textTrimmed : trim text = text)
    (suffixTrimmed : trim suffix = suffix)
    (textNonempty : text ≠ "")
    (suffixNonempty : suffix ≠ "") :
    trim (text ++ suffix) = text ++ suffix := by
  rw [trim_eq_self_iff] at textTrimmed suffixTrimmed ⊢
  have hasFirst : text.toList.head?.isSome = true := by simpa using textNonempty
  have hasLast : suffix.toList.getLast?.isSome = true := by simpa using suffixNonempty
  rw [String.toList_append]
  constructor
  · intro character isFirst
    rw [List.head?_append, Option.or_of_isSome hasFirst] at isFirst
    exact textTrimmed.first character isFirst
  · intro character isLast
    rw [List.getLast?_append, Option.or_of_isSome hasLast] at isLast
    exact suffixTrimmed.last character isLast

end Chronicle.Text
