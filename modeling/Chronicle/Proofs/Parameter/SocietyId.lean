import Chronicle.Parameter.SocietyId
import Chronicle.Proofs.Text.Trimming

/-!
# Written forms of society IDs

A text states a society ID if it is two runs of digits around a hyphen with
blanks around both.  Digits, blanks and the hyphen have no character in common,
so there is one way at most to read a text, and reading finds it.
-/

namespace Chronicle.Parameter.SocietyId

/-! ## The grammar -/

/-- Blanks only, or nothing. -/
def Blanks (characters : List Char) : Prop :=
  ∀ character ∈ characters, Text.isBlank character = true

/-- One digit or more. -/
structure IsNumber (characters : List Char) : Prop where
  nonempty : characters ≠ []
  digits : ∀ character ∈ characters, Text.isDigit character = true

/-- The characters state the two numbers. -/
inductive Spells : List Char → List Char → List Char → Prop
  | intro {first second third fourth player character : List Char}
      (firstBlank : Blanks first)
      (playerNumber : IsNumber player)
      (secondBlank : Blanks second)
      (thirdBlank : Blanks third)
      (characterNumber : IsNumber character)
      (fourthBlank : Blanks fourth) :
      Spells (first ++ (player ++ (second ++ '-' :: (third ++ (character ++ fourth)))))
        player character

/-- The text is a written form of the society ID. -/
def Written (text : String) (societyId : SocietyId) : Prop :=
  Spells text.toList societyId.player.toList societyId.character.toList

/-! ## Classes of characters -/

theorem digit_not_blank
    {character : Char}
    (digit : Text.isDigit character = true) :
    Text.isBlank character = false := by
  have separate : ∀ digits ∈ Text.digitRanges, ∀ blanks ∈ Text.blankRanges,
      digits.2 < blanks.1 ∨ blanks.2 < digits.1 := by
    decide +kernel
  obtain ⟨digits, digitsMember, lower, upper⟩ :=
    (Text.CodeRanges.holds_iff _ _).mp digit
  rw [Bool.eq_false_iff]
  intro blank
  obtain ⟨blanks, blanksMember, blankLower, blankUpper⟩ :=
    (Text.CodeRanges.holds_iff _ _).mp blank
  have apart := separate digits digitsMember blanks blanksMember
  omega

theorem hyphen_not_blank : Text.isBlank '-' = false := by decide

theorem hyphen_not_digit : Text.isDigit '-' = false := by decide +kernel

/-! ## Numbers -/

/-- A number is read with the blanks around it if nothing behind it belongs to
them. -/
theorem readNumber_append
    {before digits after rest : List Char}
    (beforeBlank : Blanks before)
    (number : IsNumber digits)
    (afterBlank : Blanks after)
    (notBlank : ∀ character, rest.head? = some character → Text.isBlank character = false)
    (notDigit : ∀ character, rest.head? = some character → Text.isDigit character = false) :
    readNumber (before ++ (digits ++ (after ++ rest))) = some (digits, rest) := by
  have digitsStart : ∀ character, (digits ++ (after ++ rest)).head? = some character →
      Text.isBlank character = false := by
    intro character isHead
    obtain ⟨head, tail, split⟩ := List.exists_cons_of_ne_nil number.nonempty
    rw [split, List.cons_append, List.head?_cons, Option.some.injEq] at isHead
    apply digit_not_blank
    exact number.digits character (by rw [split, isHead]; exact List.mem_cons_self ..)
  have digitsEnd : ∀ character, (after ++ rest).head? = some character →
      Text.isDigit character = false := by
    intro character isHead
    cases after with
    | nil => exact notDigit character isHead
    | cons head tail =>
        cases isHead
        have blank := afterBlank character (List.mem_cons_self ..)
        cases digit : Text.isDigit character with
        | false => rfl
        | true =>
            rw [digit_not_blank digit] at blank
            cases blank
  have nonempty : digits.isEmpty = false := by
    simpa using number.nonempty
  rw [readNumber, Text.dropWhile_append_run beforeBlank digitsStart]
  simp only [Text.takeWhile_append_run number.digits digitsEnd,
    Text.dropWhile_append_run number.digits digitsEnd,
    Text.dropWhile_append_run afterBlank notBlank, nonempty, Bool.false_eq_true, if_false]

theorem readNumber_eq_some
    {text digits rest : List Char}
    (read : readNumber text = some (digits, rest)) :
    ∃ before after, Blanks before ∧ IsNumber digits ∧ Blanks after ∧
      text = before ++ (digits ++ (after ++ rest)) := by
  rw [readNumber] at read
  split at read
  · cases read
  · rename_i nonempty
    cases read
    refine ⟨text.takeWhile Text.isBlank,
      ((text.dropWhile Text.isBlank).dropWhile Text.isDigit).takeWhile Text.isBlank,
      fun _ => List.mem_takeWhile_imp,
      ⟨by simpa using nonempty, fun _ => List.mem_takeWhile_imp⟩,
      fun _ => List.mem_takeWhile_imp, ?_⟩
    rw [List.takeWhile_append_dropWhile, List.takeWhile_append_dropWhile,
      List.takeWhile_append_dropWhile]

/-! ## Society IDs -/

theorem ofCharacters?_eq_some_iff
    {text player character : List Char} :
    ofCharacters? text = some (player, character) ↔ Spells text player character := by
  constructor
  · intro read
    simp only [ofCharacters?, Option.bind_eq_bind, Option.bind_eq_some_iff] at read
    obtain ⟨⟨firstDigits, rest⟩, firstRead, read⟩ := read
    dsimp only at read
    split at read
    · rename_i afterHyphen
      simp only [Option.bind_eq_some_iff] at read
      obtain ⟨⟨secondDigits, final⟩, secondRead, read⟩ := read
      dsimp only at read
      split at read
      · rename_i finished
        cases read
        obtain ⟨first, second, firstBlank, playerNumber, secondBlank, rfl⟩ :=
          readNumber_eq_some firstRead
        obtain ⟨third, fourth, thirdBlank, characterNumber, fourthBlank, rfl⟩ :=
          readNumber_eq_some secondRead
        have noRest : final = [] := by simpa using finished
        subst noRest
        rw [List.append_nil]
        exact .intro firstBlank playerNumber secondBlank thirdBlank characterNumber fourthBlank
      · cases read
    · cases read
  · rintro ⟨firstBlank, playerNumber, secondBlank, thirdBlank, characterNumber, fourthBlank⟩
    rename_i first second third fourth
    have firstRead :
        readNumber (first ++ (player ++ (second ++ '-' :: (third ++ (character ++ fourth))))) =
          some (player, '-' :: (third ++ (character ++ fourth))) :=
      readNumber_append firstBlank playerNumber secondBlank
        (by rintro _ ⟨⟩; exact hyphen_not_blank) (by rintro _ ⟨⟩; exact hyphen_not_digit)
    have secondRead :
        readNumber (third ++ (character ++ (fourth ++ []))) = some (character, []) :=
      readNumber_append thirdBlank characterNumber fourthBlank
        (by rintro _ ⟨⟩) (by rintro _ ⟨⟩)
    rw [List.append_nil] at secondRead
    simp [ofCharacters?, firstRead, secondRead]

/-- Reading finds exactly the society ID that the text is a written form of. -/
theorem ofText?_eq_some_iff
    {text : String} {societyId : SocietyId} :
    ofText? text = some societyId ↔ Written text societyId := by
  rw [ofText?, Option.map_eq_some_iff, Written, ← ofCharacters?_eq_some_iff]
  constructor
  · rintro ⟨⟨player, character⟩, read, rfl⟩
    simpa using read
  · intro read
    exact ⟨_, read, by simp⟩

theorem Written.unique
    {text : String} {societyId other : SocietyId}
    (written : Written text societyId)
    (otherWritten : Written text other) :
    societyId = other := by
  rw [← ofText?_eq_some_iff] at written otherWritten
  rw [written, Option.some.injEq] at otherWritten
  exact otherWritten

theorem Spells.numbers
    {text player character : List Char}
    (spells : Spells text player character) :
    IsNumber player ∧ IsNumber character := by
  cases spells with
  | intro _ playerNumber _ _ characterNumber _ => exact ⟨playerNumber, characterNumber⟩

/-- The form without blanks states the same society ID. -/
theorem Written.unpadded
    {text : String} {societyId : SocietyId}
    (written : Written text societyId) :
    Written (societyId.player ++ "-" ++ societyId.character) societyId := by
  have noBlanks : Blanks [] := by
    intro character member
    cases member
  obtain ⟨playerNumber, characterNumber⟩ := Spells.numbers written
  have spells := Spells.intro noBlanks playerNumber noBlanks noBlanks characterNumber noBlanks
  have characters :
      (societyId.player ++ "-" ++ societyId.character).toList =
        [] ++ (societyId.player.toList ++ ([] ++ '-' ::
          ([] ++ (societyId.character.toList ++ [])))) := by
    simp
  rw [Written, characters]
  exact spells

end Chronicle.Parameter.SocietyId
