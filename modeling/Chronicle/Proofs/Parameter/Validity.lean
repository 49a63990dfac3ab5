import Chronicle.Proofs.Parameter.Recognition

/-!
# Valid stores

A store is valid if all its parameters are well defined: each has an ID that can
be written as the key of an argument, a description, an example that the
parameter itself accepts, and writes to no key of another parameter.  The check
of a store that is not valid reports the first flaw of the first parameter with
one.
-/

namespace Chronicle

/-! ## Checks in key order -/

/-- A loop of checks over a table fails with the least key whose check fails. -/
theorem Table.forM_eq_error_iff
    {α ε : Type} {table : Table α} {check : String × α → Except ε PUnit} {fault : ε} :
    table.entries.forM check = .error fault ↔
      ∃ key value, table.get? key = some value ∧ check (key, value) = .error fault ∧
        ∀ other otherValue, table.get? other = some otherValue →
          check (other, otherValue) ≠ .ok ⟨⟩ → key ≤ other := by
  rw [Chronicle.forM_eq_error_iff]
  have increasing := table.ordered
  constructor
  · rintro ⟨before, ⟨key, value⟩, after, split, passed, failed⟩
    refine ⟨key, value, Table.mem_entries_iff.mp (by simp [split]), failed, ?_⟩
    intro other otherValue found fails
    have member := Table.mem_entries_iff.mpr found
    rw [split] at member increasing
    obtain ⟨_, fromKey, _⟩ := List.pairwise_append.mp increasing
    rcases List.mem_append.mp member with isEarlier | isLater
    · exact absurd (passed _ isEarlier) fails
    · rcases List.mem_cons.mp isLater with ⟨⟨⟩⟩ | isAfter
      · exact String.le_refl key
      · exact String.lt_asymm ((List.pairwise_cons.mp fromKey).1 _ isAfter)
  · rintro ⟨key, value, found, failed, least⟩
    obtain ⟨before, after, split⟩ := List.append_of_mem (Table.mem_entries_iff.mpr found)
    refine ⟨before, (key, value), after, split, ?_, failed⟩
    intro earlier isEarlier
    apply Classical.byContradiction
    intro fails
    have stored : table.get? earlier.1 = some earlier.2 :=
      Table.mem_entries_iff.mp (by simp [split, isEarlier])
    rw [split] at increasing
    have less : earlier.1 < key :=
      (List.pairwise_append.mp increasing).2.2 earlier isEarlier _ (List.mem_cons_self ..)
    exact least _ _ stored fails less

namespace Parameter

namespace Definition

/-! ## Forms -/

/-- What the form of a parameter asks of its example, and of its choices. -/
structure Conforms (definition : Definition) : Prop where
  societyId : definition.form = .societyId →
    ∃ societyId, SocietyId.Written definition.sample societyId
  choice : ∀ choices, definition.form = .choice choices →
    choices ≠ [] ∧ choices.Nodup ∧ definition.sample ∈ choices

/-- The first thing that is wrong with a form. -/
inductive FormFlaw (definition : Definition) : ValidationCause → Prop
  | unwritten
      (isSocietyId : definition.form = .societyId)
      (unwritten : ∀ societyId, ¬ SocietyId.Written definition.sample societyId) :
      FormFlaw definition (.exampleNotSocietyId definition.sample)
  | noChoices
      (isChoice : definition.form = .choice []) :
      FormFlaw definition .noChoices
  | repeated {before after : List String} {choice : String}
      (isChoice : definition.form = .choice (before ++ choice :: after))
      (distinct : before.Nodup)
      (again : choice ∈ before) :
      FormFlaw definition (.repeatedChoice choice)
  | unlisted {choices : List String}
      (isChoice : definition.form = .choice choices)
      (nonempty : choices ≠ [])
      (distinct : choices.Nodup)
      (unlisted : definition.sample ∉ choices) :
      FormFlaw definition (.exampleNotChoice definition.sample)

section

variable {definition : Definition} {cause : ValidationCause}

/-- The items before the first repeated one are not repeated. -/
theorem firstRepeated_eq_some_iff
    {seen items : List String} {item : String} :
    firstRepeated seen items = some item ↔
      ∃ before after, items = before ++ item :: after ∧ firstRepeated seen before = none ∧
        (item ∈ before ∨ item ∈ seen) := by
  induction items generalizing seen with
  | nil => simp [firstRepeated]
  | cons head rest inductionHypothesis =>
      rw [firstRepeated]
      by_cases repeated : head ∈ seen
      · rw [if_pos (by simpa using repeated), Option.some.injEq]
        constructor
        · rintro rfl
          exact ⟨[], rest, rfl, rfl, Or.inr repeated⟩
        · rintro ⟨before, after, split, notRepeated, _⟩
          rcases List.cons_eq_append_iff.mp split with ⟨rfl, same⟩ | ⟨further, rfl, _⟩
          · exact (List.cons.inj same).1.symm
          · simp [firstRepeated, repeated] at notRepeated
      · rw [if_neg (by simpa using repeated), inductionHypothesis]
        constructor
        · rintro ⟨before, after, rfl, notRepeated, again⟩
          refine ⟨head :: before, after, rfl, ?_, ?_⟩
          · simpa [firstRepeated, repeated] using notRepeated
          · simpa [or_assoc, or_left_comm] using again
        · rintro ⟨before, after, split, notRepeated, again⟩
          rcases List.cons_eq_append_iff.mp split with ⟨rfl, same⟩ | ⟨further, rfl, rfl⟩
          · obtain ⟨rfl, rfl⟩ := List.cons.inj same
            exact absurd (again.resolve_left List.not_mem_nil) repeated
          · refine ⟨further, after, rfl, ?_, ?_⟩
            · simpa [firstRepeated, repeated] using notRepeated
            · simpa [or_assoc, or_left_comm] using again

theorem checkForm_eq_none_iff_conforms :
    definition.checkForm = none ↔ definition.Conforms := by
  rw [checkForm_eq_none_iff, Accepts]
  cases form : definition.form with
  | text => exact iff_of_true ⟨trivial, by simp⟩ ⟨by simp [form], by simp [form]⟩
  | societyId =>
      constructor
      · rintro ⟨written, _⟩
        exact ⟨fun _ => written, by simp [form]⟩
      · exact fun conforms => ⟨conforms.societyId form, by simp⟩
  | choice choices =>
      constructor
      · rintro ⟨listed, distinct⟩
        refine ⟨by simp [form], ?_⟩
        intro others isChoice
        rw [form, Form.choice.injEq] at isChoice
        subst isChoice
        exact ⟨List.ne_nil_of_mem listed, distinct choices rfl, listed⟩
      · intro conforms
        obtain ⟨_, distinct, listed⟩ := conforms.choice choices form
        refine ⟨listed, ?_⟩
        rintro _ ⟨⟩
        exact distinct

theorem checkForm_eq_some_iff :
    definition.checkForm = some cause ↔ definition.FormFlaw cause := by
  rw [checkForm]
  constructor
  · intro reported
    split at reported
    · cases reported
    · rename_i isSocietyId
      split at reported
      · cases reported
      · rename_i unread
        cases reported
        refine .unwritten isSocietyId fun societyId written => unread ?_
        rw [SocietyId.ofText?_eq_some_iff.mpr written]
        rfl
    · rename_i choices isChoice
      split at reported
      · rename_i noChoices
        cases reported
        rw [List.isEmpty_iff.mp noChoices] at isChoice
        exact .noChoices isChoice
      · rename_i someChoices
        have nonempty : choices ≠ [] := by simpa using someChoices
        split at reported
        · rename_i choice repeated
          cases reported
          obtain ⟨before, after, rfl, notRepeated, again⟩ := firstRepeated_eq_some_iff.mp repeated
          exact .repeated isChoice (firstRepeated_eq_none_iff.mp notRepeated).1
            (again.resolve_right List.not_mem_nil)
        · rename_i notRepeated
          split at reported
          · cases reported
          · rename_i notListed
            cases reported
            exact .unlisted isChoice nonempty (firstRepeated_eq_none_iff.mp notRepeated).1
              (by simpa using notListed)
  · intro flaw
    cases flaw with
    | unwritten isSocietyId unwritten =>
        have unread : SocietyId.ofText? definition.sample = none := by
          rw [Option.eq_none_iff_forall_ne_some]
          exact fun societyId read => unwritten societyId (SocietyId.ofText?_eq_some_iff.mp read)
        simp [isSocietyId, unread]
    | noChoices isChoice => simp [isChoice]
    | @repeated before after choice isChoice distinct again =>
        have notRepeated : firstRepeated [] before = none :=
          firstRepeated_eq_none_iff.mpr ⟨distinct, fun _ _ => List.not_mem_nil⟩
        have repeated : firstRepeated [] (before ++ choice :: after) = some choice :=
          firstRepeated_eq_some_iff.mpr ⟨before, after, rfl, notRepeated, Or.inl again⟩
        simp [isChoice, repeated]
    | unlisted isChoice nonempty distinct unlisted =>
        have notRepeated : firstRepeated [] _ = none :=
          firstRepeated_eq_none_iff.mpr ⟨distinct, fun _ _ => List.not_mem_nil⟩
        simp [isChoice, nonempty, notRepeated, unlisted]

end

/-! ## Definitions -/

/-- All that is asked of a definition by itself. -/
structure WellDefined (definition : Definition) : Prop where
  named : definition.id ≠ ""
  trimmed : Text.Trimmed definition.id.toList
  noSeparator : '=' ∉ definition.id.toList
  described : definition.description ≠ ""
  exemplified : definition.sample ≠ ""
  conforms : definition.Conforms

/-- The first thing that is wrong with a definition. -/
inductive Flaw (definition : Definition) : ValidationCause → Prop
  | id
      (unfit : ¬ WritableKey definition.id) :
      Flaw definition .malformedId
  | description
      (writable : WritableKey definition.id)
      (missing : definition.description = "") :
      Flaw definition .noDescription
  | sample
      (writable : WritableKey definition.id)
      (described : definition.description ≠ "")
      (missing : definition.sample = "") :
      Flaw definition .noExample
  | form {cause : ValidationCause}
      (writable : WritableKey definition.id)
      (described : definition.description ≠ "")
      (exemplified : definition.sample ≠ "")
      (flaw : definition.FormFlaw cause) :
      Flaw definition cause

section

variable {definition : Definition} {cause : ValidationCause}

theorem writableKey_iff
    {id : String} :
    WritableKey id ↔ id ≠ "" ∧ Text.Trimmed id.toList ∧ '=' ∉ id.toList := by
  rw [← Text.trim_eq_self_iff]
  exact ⟨fun ⟨named, trimmed, noSeparator⟩ => ⟨named, trimmed, noSeparator⟩,
    fun ⟨named, trimmed, noSeparator⟩ => ⟨named, trimmed, noSeparator⟩⟩

theorem problem?_eq_none_iff_wellDefined :
    definition.problem? = none ↔ definition.WellDefined := by
  rw [problem?_eq_none_iff, writableKey_iff, checkForm_eq_none_iff_conforms]
  constructor
  · rintro ⟨⟨named, trimmed, noSeparator⟩, described, exemplified, conforms⟩
    exact ⟨named, trimmed, noSeparator, described, exemplified, conforms⟩
  · rintro ⟨named, trimmed, noSeparator, described, exemplified, conforms⟩
    exact ⟨⟨named, trimmed, noSeparator⟩, described, exemplified, conforms⟩

theorem problem?_eq_some_iff :
    definition.problem? = some cause ↔ definition.Flaw cause := by
  have wellFormed_iff : isWellFormedId definition.id = true ↔ WritableKey definition.id :=
    isWellFormedId_iff
  rw [problem?]
  constructor
  · intro reported
    split at reported
    · rename_i malformed
      cases reported
      refine .id fun writable => ?_
      simp [wellFormed_iff.mpr writable] at malformed
    · rename_i notMalformed
      have writable := wellFormed_iff.mp (by simpa using notMalformed)
      split at reported
      · rename_i missing
        cases reported
        exact .description writable (by simpa using missing)
      · rename_i described
        split at reported
        · rename_i missing
          cases reported
          exact .sample writable (by simpa using described) (by simpa using missing)
        · rename_i exemplified
          exact .form writable (by simpa using described) (by simpa using exemplified)
            (checkForm_eq_some_iff.mp reported)
  · intro flaw
    cases flaw with
    | id unfit =>
        have malformed : isWellFormedId definition.id = false := by
          rw [Bool.eq_false_iff]
          exact fun wellFormed => unfit (wellFormed_iff.mp wellFormed)
        simp [malformed]
    | description writable missing => simp [wellFormed_iff.mpr writable, missing]
    | sample writable described missing =>
        simp [wellFormed_iff.mpr writable, described, missing]
    | form writable described exemplified flaw =>
        simp [wellFormed_iff.mpr writable, described, exemplified,
          checkForm_eq_some_iff.mpr flaw]

end

end Definition

namespace Store

open Yaml (Value)

/-! ## Parameters of a store -/

/-- The definition is well defined, and no other one has a key that it
derives. -/
structure Proper (store : Store) (definition : Definition) : Prop where
  wellDefined : definition.WellDefined
  underived : ∀ key ∈ definition.derivedKeys, store.get? key = none

/-- The first thing that is wrong with a parameter of the store. -/
inductive Flaw (store : Store) (definition : Definition) : ValidationCause → Prop
  | own {cause : ValidationCause}
      (flaw : definition.Flaw cause) :
      Flaw store definition cause
  | derived {before after : List String} {key : String} {other : Definition}
      (wellDefined : definition.WellDefined)
      (isDerived : definition.derivedKeys = before ++ key :: after)
      (free : ∀ earlier ∈ before, store.get? earlier = none)
      (taken : store.get? key = some other) :
      Flaw store definition (.takenDerivedKey key)

section

variable {store : Store} {definition : Definition} {fault : Fault}

theorem firstTaken_eq_none_iff
    {keys : List String} :
    keys.find? store.contains = none ↔ ∀ key ∈ keys, store.get? key = none := by
  simp only [List.find?_eq_none, Bool.not_eq_true, contains, Table.contains_eq_false_iff, get?]

theorem firstTaken_eq_some_iff
    {keys : List String} {key : String} :
    keys.find? store.contains = some key ↔
      ∃ before after other, keys = before ++ key :: after ∧
        (∀ earlier ∈ before, store.get? earlier = none) ∧ store.get? key = some other := by
  simp only [List.find?_eq_some_iff_append, Bool.not_eq_true', contains, Table.contains_iff,
    Table.contains_eq_false_iff, get?]
  constructor
  · rintro ⟨⟨other, taken⟩, before, after, split, free⟩
    exact ⟨before, after, other, split, free, taken⟩
  · rintro ⟨before, after, other, split, free, taken⟩
    exact ⟨⟨other, taken⟩, before, after, split, free⟩

theorem validateEntry_eq_ok_iff :
    store.validateEntry definition = .ok () ↔ store.Proper definition := by
  rw [validateEntry, bind_eq_ok_iff]
  constructor
  · rintro ⟨⟨⟩, sound, checked⟩
    refine ⟨Definition.problem?_eq_none_iff_wellDefined.mp
      (Definition.validate_eq_ok_iff.mp sound), ?_⟩
    split at checked
    · cases checked
    · rename_i free
      exact firstTaken_eq_none_iff.mp free
  · rintro ⟨wellDefined, underived⟩
    refine ⟨(), Definition.validate_eq_ok_iff.mpr
      (Definition.problem?_eq_none_iff_wellDefined.mpr wellDefined), ?_⟩
    rw [firstTaken_eq_none_iff.mpr underived]
    rfl

theorem validateEntry_eq_error_iff :
    store.validateEntry definition = .error fault ↔
      ∃ cause, store.Flaw definition cause ∧ fault = .validation cause := by
  rw [validateEntry, bind_eq_error_iff]
  constructor
  · rintro (refused | ⟨⟨⟩, sound, clash⟩)
    · rw [Definition.validate] at refused
      split at refused
      · rename_i cause problem
        cases refused
        exact ⟨cause, .own (Definition.problem?_eq_some_iff.mp problem), rfl⟩
      · cases refused
    · have wellDefined := Definition.problem?_eq_none_iff_wellDefined.mp
        (Definition.validate_eq_ok_iff.mp sound)
      split at clash
      · rename_i key found
        cases clash
        obtain ⟨before, after, other, isDerived, free, taken⟩ := firstTaken_eq_some_iff.mp found
        exact ⟨_, .derived wellDefined isDerived free taken, rfl⟩
      · cases clash
  · rintro ⟨cause, flaw, rfl⟩
    cases flaw with
    | own flaw =>
        left
        rw [Definition.validate, Definition.problem?_eq_some_iff.mpr flaw]
    | derived wellDefined isDerived free taken =>
        right
        refine ⟨(), Definition.validate_eq_ok_iff.mpr
          (Definition.problem?_eq_none_iff_wellDefined.mpr wellDefined), ?_⟩
        rw [firstTaken_eq_some_iff.mpr ⟨_, _, _, isDerived, free, taken⟩]
        rfl

theorem Flaw.not_proper
    {cause : ValidationCause}
    (flaw : store.Flaw definition cause) :
    ¬ store.Proper definition := by
  intro proper
  have passed := validateEntry_eq_ok_iff.mpr proper
  rw [validateEntry_eq_error_iff.mpr ⟨cause, flaw, rfl⟩] at passed
  cases passed

/-! ## The check of a store -/

theorem validate_eq_ok_iff_proper :
    store.validate = .ok () ↔
      ∀ id definition, store.get? id = some definition → store.Proper definition := by
  rw [validate, forM_eq_ok_iff]
  constructor
  · intro passed id definition found
    have checked := passed (id, definition) (Table.mem_entries_iff.mpr found)
    exact validateEntry_eq_ok_iff.mp (within_eq_ok_iff.mp checked)
  · intro proper entry member
    have isProper := proper entry.1 entry.2 (Table.mem_entries_iff.mp member)
    exact within_eq_ok_iff.mpr (validateEntry_eq_ok_iff.mpr isProper)

theorem validate_eq_error_iff :
    store.validate = .error fault ↔
      ∃ id definition cause, store.get? id = some definition ∧ store.Flaw definition cause ∧
        fault = .context s!"parameter '{id}'" (.validation cause) ∧
        ∀ other otherDefinition, store.get? other = some otherDefinition →
          ¬ store.Proper otherDefinition → id ≤ other := by
  rw [validate, Table.forM_eq_error_iff]
  constructor
  · rintro ⟨id, definition, found, failed, least⟩
    obtain ⟨_, refused, rfl⟩ := within_eq_error_iff.mp failed
    obtain ⟨cause, flaw, rfl⟩ := validateEntry_eq_error_iff.mp refused
    refine ⟨id, definition, cause, found, flaw, rfl, ?_⟩
    intro other otherDefinition otherFound improper
    refine least other otherDefinition otherFound fun passed => improper ?_
    exact validateEntry_eq_ok_iff.mp (within_eq_ok_iff.mp passed)
  · rintro ⟨id, definition, cause, found, flaw, rfl, least⟩
    have refused := validateEntry_eq_error_iff.mpr ⟨cause, flaw, rfl⟩
    refine ⟨id, definition, found, within_eq_error_iff.mpr ⟨_, refused, rfl⟩, ?_⟩
    intro other otherDefinition otherFound fails
    refine least other otherDefinition otherFound fun proper => fails ?_
    exact within_eq_ok_iff.mpr (validateEntry_eq_ok_iff.mpr proper)

/-- The parameter with the least ID of those that are not proper. -/
structure IsFirstImproper (store : Store) (id : String) (definition : Definition) : Prop where
  found : store.get? id = some definition
  own : definition.id = id
  improper : ¬ store.Proper definition
  least : ∀ other otherDefinition, store.get? other = some otherDefinition →
    ¬ store.Proper otherDefinition → id ≤ other

/-- A store is valid exactly if all its parameters are proper.  Else the first
flaw of the first parameter that is not is reported under the ID of that
parameter. -/
theorem validity_exact
    (reachable : store.Reachable) :
    (store.validate = .ok () ↔
        ∀ id definition, store.get? id = some definition →
          definition.id = id ∧ store.Proper definition) ∧
      ∀ fault, store.validate = .error fault ↔
        ∃ id definition cause, store.IsFirstImproper id definition ∧
          store.Flaw definition cause ∧
          fault = .context s!"parameter '{id}'" (.validation cause) := by
  have keyed := reachable.keyed
  constructor
  · rw [validate_eq_ok_iff_proper]
    exact ⟨fun proper id definition found => ⟨keyed id definition found, proper id definition found⟩,
      fun proper id definition found => (proper id definition found).2⟩
  · intro fault
    rw [validate_eq_error_iff]
    constructor
    · rintro ⟨id, definition, cause, found, flaw, isFault, least⟩
      exact ⟨id, definition, cause,
        ⟨found, keyed id definition found, flaw.not_proper, least⟩, flaw, isFault⟩
    · rintro ⟨id, definition, cause, first, flaw, isFault⟩
      exact ⟨id, definition, cause, first.found, flaw, isFault, first.least⟩

end

/-- A choice that is listed twice, and before it in the order of the IDs, but
not of the pairs, a society ID whose second derived key is the ID of a text. -/
def overlapping : List (Value × Value) :=
  [(.string "zone", .mapping
      [(.string "type", .string "choice"), (.string "description", .string "Zone"),
        (.string "example", .string "north"),
        (.string "choices", .sequence [.string "north", .string "south", .string "north"])]),
    (.string "guest.char", .mapping
      [(.string "type", .string "text"), (.string "description", .string "Character"),
        (.string "example", .string "Someone")]),
    (.string "guest", .mapping
      [(.string "type", .string "societyid"), (.string "description", .string "Guest"),
        (.string "example", .string "1-2")])]

theorem validity_exact_overlapping :
    ∃ store id definition cause fault,
      ofPairs overlapping = .ok store ∧
      store.validate = .error fault ∧
      fault.message = "parameter 'guest': validation error: " ++
        "derived argument 'guest.char' is also defined as a parameter" ∧
      store.IsFirstImproper id definition ∧
      store.Flaw definition cause ∧
      fault = .context s!"parameter '{id}'" (.validation cause) ∧
      ¬ ∀ other otherDefinition, store.get? other = some otherDefinition →
        otherDefinition.id = other ∧ store.Proper otherDefinition := by
  obtain ⟨store, made⟩ := exists_of_isOk (ofPairs overlapping) (by decide +kernel)
  have raised :
      (faultOf? (ofPairs overlapping >>= validate)).map Fault.message =
        some ("parameter 'guest': validation error: " ++
          "derived argument 'guest.char' is also defined as a parameter") := by
    decide +kernel
  simp only [made, bind, Except.bind] at raised
  obtain ⟨fault, isFault, message⟩ := Option.map_eq_some_iff.mp raised
  have failed : store.validate = .error fault := faultOf?_eq_some_iff.mp isFault
  obtain ⟨passes, reports⟩ := validity_exact (.ofPairs made)
  obtain ⟨id, definition, cause, first, flaw, isWrapped⟩ := (reports fault).mp failed
  refine ⟨store, id, definition, cause, fault, made, failed, message, first, flaw, isWrapped, ?_⟩
  intro allProper
  rw [passes.mpr allProper] at failed
  cases failed

end Store

end Parameter

end Chronicle
