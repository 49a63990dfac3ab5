import Chronicle.Proofs.Parameter.Interruption
import Chronicle.Proofs.Parameter.Samples

/-!
# Recognition of society IDs

A society ID parameter accepts exactly the written forms of society IDs, as its
example and as its argument alike.  What it sets depends on the two numbers
only, and the value that it writes back is the one written form without blanks.
-/

namespace Chronicle.Parameter

namespace SocietyId

/-- Different society IDs have different texts. -/
theorem Written.text_inj
    {value otherValue : String} {societyId other : SocietyId}
    (written : Written value societyId)
    (otherWritten : Written otherValue other) :
    societyId.player ++ "-" ++ societyId.character = other.player ++ "-" ++ other.character ↔
      societyId = other := by
  constructor
  · intro same
    have unpadded := written.unpadded
    rw [same] at unpadded
    exact unpadded.unique otherWritten.unpadded
  · intro same
    rw [same]

theorem not_written_empty (societyId : SocietyId) : ¬ Written "" societyId := by
  rw [← ofText?_eq_some_iff]
  intro read
  have unread : ofText? "" = none := by decide
  rw [unread] at read
  cases read

end SocietyId

namespace Definition

theorem append_ne_self {id suffix : String} (nonempty : suffix ≠ "") : id ++ suffix ≠ id := by
  intro same
  have characters := congrArg String.toList same
  simp only [String.toList_append, List.append_right_eq_self, String.toList_eq_nil_iff]
    at characters
  exact nonempty characters

section

variable {definition : Definition} {arguments processed : Arguments} {value : String}
  {societyId : SocietyId}

theorem process_succeeds_iff_accepts
    (held : arguments.get? definition.id = some value) :
    (∃ processed, definition.process arguments = .ok processed) ↔ definition.Accepts value := by
  cases definition.effect_or_refuses value with
  | inl accepted =>
      obtain ⟨newValue, derived, effect⟩ := accepted
      exact iff_of_true ⟨_, process_of_effect held effect⟩ effect.accepts
  | inr refused =>
      obtain ⟨cause, refuses⟩ := refused
      apply iff_of_false
      · intro ⟨processed, done⟩
        rw [process_of_refuses held refuses] at done
        cases done
      · exact refuses.not_accepts

theorem validate_eq_ok_iff {definition : Definition} :
    definition.validate = .ok () ↔ definition.problem? = none := by
  unfold validate
  cases definition.problem? with
  | none => simp
  | some cause => simp

theorem accepts_iff_written
    (isSocietyId : definition.form = .societyId) :
    definition.Accepts value ↔ ∃ societyId, SocietyId.Written value societyId := by
  rw [Accepts, isSocietyId]

/-- The example is checked as an argument would be. -/
theorem validate_eq_ok_iff_written
    (isSocietyId : definition.form = .societyId)
    (writable : WritableKey definition.id)
    (described : definition.description ≠ "") :
    definition.validate = .ok () ↔
      ∃ societyId, SocietyId.Written definition.sample societyId := by
  rw [validate_eq_ok_iff, problem?_eq_none_iff, checkForm_eq_none_iff,
    accepts_iff_written isSocietyId]
  constructor
  · intro ⟨_, _, _, stated, _⟩
    exact stated
  · intro stated
    refine ⟨writable, described, ?_, stated, ?_⟩
    · intro noSample
      obtain ⟨societyId, written⟩ := stated
      rw [noSample] at written
      exact SocietyId.not_written_empty societyId written
    · intro choices isChoice
      rw [isSocietyId] at isChoice
      cases isChoice

/-- The keys that are set, and their values. -/
structure Records (definition : Definition) (societyId : SocietyId)
    (arguments processed : Arguments) : Prop where
  own : processed.get? definition.id =
    some (societyId.player ++ "-" ++ societyId.character)
  player : processed.get? (definition.id ++ ".player") = some societyId.player
  character : processed.get? (definition.id ++ ".char") = some societyId.character
  others : ∀ key, key ≠ definition.id → key ≠ definition.id ++ ".player" →
    key ≠ definition.id ++ ".char" → processed.get? key = arguments.get? key

theorem process_of_written
    (isSocietyId : definition.form = .societyId)
    (held : arguments.get? definition.id = some value)
    (written : SocietyId.Written value societyId) :
    ∃ processed, definition.process arguments = .ok processed ∧
      definition.Records societyId arguments processed := by
  refine ⟨_, process_of_effect held (.societyId isSocietyId written), ?_⟩
  have playerOwn : definition.id ++ ".player" ≠ definition.id := append_ne_self (by decide)
  have characterOwn : definition.id ++ ".char" ≠ definition.id := append_ne_self (by decide)
  have characterPlayer : definition.id ++ ".char" ≠ definition.id ++ ".player" :=
    (playerKey_ne_characterKey definition.id definition.id).symm
  constructor
  · simp only [Arguments.setAll, List.foldl_cons, List.foldl_nil, Arguments.get?_set,
      if_neg characterOwn, if_neg playerOwn, if_true]
  · simp only [Arguments.setAll, List.foldl_cons, List.foldl_nil, Arguments.get?_set,
      if_neg characterPlayer, if_true]
  · simp only [Arguments.setAll, List.foldl_cons, List.foldl_nil, Arguments.get?_set, if_true]
  · intro key notOwn notPlayer notCharacter
    simp only [Arguments.setAll, List.foldl_cons, List.foldl_nil, Arguments.get?_set,
      if_neg (Ne.symm notOwn), if_neg (Ne.symm notPlayer), if_neg (Ne.symm notCharacter)]

end

/-- A society ID parameter accepts the written forms of society IDs, as its
argument and as its example.  A written form states one society ID, whose
numbers are all that the arguments come to hold of it; the text written back is
a written form of the same society ID, and of no other. -/
theorem recognition_exact
    {definition : Definition}
    (isSocietyId : definition.form = .societyId) :
    (∀ (arguments : Arguments) (value : String),
      arguments.get? definition.id = some value →
        ((∃ processed, definition.process arguments = .ok processed) ↔
          ∃ societyId, SocietyId.Written value societyId)) ∧
      (WritableKey definition.id → definition.description ≠ "" →
        (definition.validate = .ok () ↔
          ∃ societyId, SocietyId.Written definition.sample societyId)) ∧
      ∀ (value : String) (societyId : SocietyId), SocietyId.Written value societyId →
        (∀ other, SocietyId.Written value other → other = societyId) ∧
        (∀ arguments : Arguments, arguments.get? definition.id = some value →
          ∃ processed, definition.process arguments = .ok processed ∧
            definition.Records societyId arguments processed) ∧
        SocietyId.Written (societyId.player ++ "-" ++ societyId.character) societyId ∧
        ∀ (otherValue : String) (other : SocietyId), SocietyId.Written otherValue other →
          (societyId.player ++ "-" ++ societyId.character =
              other.player ++ "-" ++ other.character ↔
            societyId.player = other.player ∧ societyId.character = other.character) := by
  refine ⟨?_, validate_eq_ok_iff_written isSocietyId, ?_⟩
  · intro arguments value held
    rw [process_succeeds_iff_accepts held, accepts_iff_written isSocietyId]
  · intro value societyId written
    refine ⟨?_, ?_, written.unpadded, ?_⟩
    · intro other otherWritten
      exact otherWritten.unique written
    · intro arguments held
      exact process_of_written isSocietyId held written
    · intro otherValue other otherWritten
      rw [written.text_inj otherWritten, SocietyId.mk.injEq]

/-- A society ID parameter that passes its check. -/
def membership : Definition :=
  ⟨"society", "Society ID", "1-2", none, .societyId⟩

/-- Blanks of several kinds, and digits of two scripts. -/
def paddedMembership : Arguments :=
  ⟨[("event", "x"), ("society", " 12 -\n٣4\t")], by decide⟩

theorem recognition_exact_membership :
    ∃ processed,
      SocietyId.Written " 12 -\n٣4\t" ⟨"12", "٣4"⟩ ∧
      membership.validate = .ok () ∧
      membership.process paddedMembership = .ok processed ∧
      membership.Records ⟨"12", "٣4"⟩ paddedMembership processed ∧
      SocietyId.Written "12-٣4" ⟨"12", "٣4"⟩ ∧
      ¬ ∃ refused, membership.process ⟨[("society", "1-2-3")], by decide⟩ = .ok refused := by
  have isSocietyId : membership.form = .societyId := rfl
  obtain ⟨arguments, examples, forms⟩ := recognition_exact isSocietyId
  have written : SocietyId.Written " 12 -\n٣4\t" ⟨"12", "٣4"⟩ :=
    SocietyId.ofText?_eq_some_iff.mp (by decide +kernel)
  have sample : SocietyId.Written membership.sample ⟨"1", "2"⟩ :=
    SocietyId.ofText?_eq_some_iff.mp (by decide +kernel)
  have writable : WritableKey membership.id := isWellFormedId_iff.mp (by decide +kernel)
  have checked := (examples writable (by decide)).mpr ⟨_, sample⟩
  obtain ⟨_, sets, unpadded, _⟩ := forms _ _ written
  obtain ⟨processed, done, records⟩ := sets paddedMembership (by decide)
  refine ⟨processed, written, checked, done, records, unpadded, ?_⟩
  rw [arguments ⟨[("society", "1-2-3")], by decide⟩ "1-2-3" (by decide)]
  intro ⟨societyId, threeParts⟩
  have read := SocietyId.ofText?_eq_some_iff.mpr threeParts
  have unread : SocietyId.ofText? "1-2-3" = none := by decide +kernel
  cases unread.symm.trans read

end Definition

end Chronicle.Parameter
