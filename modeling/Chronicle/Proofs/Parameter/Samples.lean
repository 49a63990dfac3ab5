import Chronicle.Proofs.Parameter.Processing

/-!
# Examples as arguments

What a checked definition promises about its ID and its example is what reading
and processing ask of an argument: the ID can be written as a key, and the
parameter accepts the example.
-/

namespace Chronicle.Parameter

/-! ## Checked definitions -/

namespace Definition

/-- What makes a text the key of a written argument. -/
structure WritableKey (id : String) : Prop where
  nonempty : id ≠ ""
  trimmed : Text.trim id = id
  noSeparator : '=' ∉ id.toList

theorem isWellFormedId_iff {id : String} : isWellFormedId id = true ↔ WritableKey id := by
  simp only [isWellFormedId, Bool.and_eq_true, Bool.not_eq_true', beq_iff_eq,
    String.isEmpty_eq_false_iff, List.contains_eq_mem, decide_eq_false_iff_not]
  exact ⟨fun ⟨⟨nonempty, trimmed⟩, noSeparator⟩ => ⟨nonempty, trimmed, noSeparator⟩,
    fun writable => ⟨⟨writable.nonempty, writable.trimmed⟩, writable.noSeparator⟩⟩

theorem firstRepeated_eq_none_iff
    {before items : List String} :
    firstRepeated before items = none ↔ items.Nodup ∧ ∀ item ∈ items, item ∉ before := by
  induction items generalizing before with
  | nil => simp [firstRepeated]
  | cons head rest inductionHypothesis =>
      rw [firstRepeated]
      by_cases repeated : head ∈ before
      · simp [repeated]
      · rw [if_neg (by simpa using repeated), inductionHypothesis, List.nodup_cons,
          List.forall_mem_cons]
        constructor
        · rintro ⟨distinct, isNew⟩
          refine ⟨⟨fun member => isNew head member (List.mem_cons_self ..), distinct⟩, repeated, ?_⟩
          exact fun item member inBefore => isNew item member (List.mem_cons_of_mem head inBefore)
        · rintro ⟨⟨absent, distinct⟩, _, isNew⟩
          refine ⟨distinct, fun item member known => ?_⟩
          rcases List.mem_cons.mp known with rfl | inBefore
          · exact absent member
          · exact isNew item member inBefore

/-- The check of the form accepts the example itself, and choices listed
once. -/
theorem checkForm_eq_none_iff
    {definition : Definition} :
    definition.checkForm = none ↔
      definition.Accepts definition.sample ∧
        ∀ choices, definition.form = .choice choices → choices.Nodup := by
  unfold checkForm Accepts
  cases form : definition.form with
  | text => simp
  | societyId =>
      simp only [← SocietyId.ofText?_eq_some_iff, ← Option.isSome_iff_exists]
      cases (SocietyId.ofText? definition.sample).isSome <;> simp
  | choice choices =>
      simp only [Form.choice.injEq, forall_eq']
      by_cases noChoices : choices = []
      · simp [noChoices]
      · rw [if_neg (by simpa using noChoices)]
        cases repeated : firstRepeated [] choices with
        | some choice =>
            have notDistinct : ¬ choices.Nodup := by
              intro distinct
              rw [firstRepeated_eq_none_iff.mpr ⟨distinct, by simp⟩] at repeated
              cases repeated
            simp [notDistinct]
        | none =>
            have distinct := (firstRepeated_eq_none_iff.mp repeated).1
            simp [distinct]

theorem problem?_eq_none_iff
    {definition : Definition} :
    definition.problem? = none ↔
      WritableKey definition.id ∧ definition.description ≠ "" ∧ definition.sample ≠ "" ∧
        definition.checkForm = none := by
  rw [← isWellFormedId_iff, problem?]
  by_cases wellFormed : isWellFormedId definition.id = true
  · by_cases noDescription : definition.description = ""
    · simp [wellFormed, noDescription]
    · by_cases noSample : definition.sample = ""
      · simp [wellFormed, noDescription, noSample]
      · simp [wellFormed, noDescription, noSample]
  · simp [wellFormed]

end Definition

/-! ## Examples of a store -/

namespace Store

variable {store : Store}

/-- Reading the examples gives each parameter its own as its argument. -/
theorem parse_sampleArguments
    (keyed : store.Keyed)
    (checked : store.validate = .ok ()) :
    ∃ arguments, Arguments.parse store.sampleArguments = .ok arguments ∧
      arguments.entries = store.table.entries.map fun entry => (entry.1, entry.2.sample) := by
  have distinct :
      ((store.table.entries.map fun entry => (entry.1, entry.2.sample)).map Prod.fst).Nodup := by
    rw [List.map_map]
    exact store.table.keys_nodup
  refine ⟨⟨_, distinct⟩, Arguments.parse_eq_ok_iff.mpr ?_, rfl⟩
  rw [sampleArguments, Table.values, List.map_map, List.forall₂_map_left_iff,
    List.forall₂_map_right_iff, List.forall₂_same]
  rintro ⟨id, definition⟩ member
  have found : store.get? id = some definition := Table.mem_entries_iff.mp member
  obtain rfl := keyed id definition found
  obtain ⟨writable, _⟩ :=
    Definition.problem?_eq_none_iff.mp (validate_eq_ok_iff.mp checked _ definition found).1
  have reads :=
    Arguments.Reads.intro definition.sample writable.noSeparator
      (writable.trimmed.symm ▸ writable.nonempty)
  rwa [writable.trimmed] at reads

/-- A checked store accepts the examples of its parameters. -/
theorem accepts_samples
    (checked : store.validate = .ok ()) :
    ∀ entry ∈ store.table.entries, store.Accepts (entry.1, entry.2.sample) := by
  rintro ⟨id, definition⟩ member
  have found : store.get? id = some definition := Table.mem_entries_iff.mp member
  obtain ⟨_, _, _, form⟩ :=
    Definition.problem?_eq_none_iff.mp (validate_eq_ok_iff.mp checked id definition found).1
  exact ⟨definition, found, (Definition.checkForm_eq_none_iff.mp form).1⟩

theorem process_samples
    (keyed : store.Keyed)
    (checked : store.validate = .ok ())
    {arguments : Arguments}
    (samples : arguments.entries =
      store.table.entries.map fun entry => (entry.1, entry.2.sample)) :
    ∃ processed, store.process arguments = (processed, .ok ()) := by
  rw [process_succeeds_iff keyed checked, samples, List.forall_mem_map]
  exact accepts_samples checked

end Store

end Chronicle.Parameter
