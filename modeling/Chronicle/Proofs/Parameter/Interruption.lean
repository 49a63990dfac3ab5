import Chronicle.Proofs.Parameter.FixedPoint
import Chronicle.Proofs.Parameter.InPlace

/-!
# Interrupted processing

Arguments are changed in their place while later ones are still unchecked, so a
refused argument stops a run halfway.  The run leaves the arguments before it as
processing makes them, and what follows from these is set.  The refused argument
and those behind it stay, unless one of them has a derived key: then it holds
the derived value.
-/

namespace Chronicle.Parameter

namespace Store

/-! ## Refusals -/

/-- Why an argument is refused: it has no parameter, or its parameter refuses
its value. -/
inductive Refuses (store : Store) : String × String → ValidationCause → Prop
  | unknown {key value : String}
      (absent : store.get? key = none) :
      Refuses store (key, value) .noParameter
  | value {definition : Definition} {value : String} {cause : ValidationCause}
      (found : store.get? definition.id = some definition)
      (refuses : definition.Refuses value cause) :
      Refuses store (definition.id, value) cause

variable {store : Store}

theorem Refuses.not_accepts
    {pair : String × String} {cause : ValidationCause}
    (refuses : store.Refuses pair cause) :
    ¬ store.Accepts pair := by
  intro ⟨definition, found, accepted⟩
  cases refuses with
  | unknown absent => cases absent.symm.trans found
  | value known isRefused =>
      cases known.symm.trans found
      exact isRefused.not_accepts accepted

theorem becomes_or_refuses
    (keyed : store.Keyed) (pair : String × String) :
    (∃ effect, store.Becomes pair effect) ∨ ∃ cause, store.Refuses pair cause := by
  obtain ⟨key, value⟩ := pair
  cases found : store.get? key with
  | none => exact Or.inr ⟨_, .unknown found⟩
  | some definition =>
      obtain rfl := keyed key definition found
      cases definition.effect_or_refuses value with
      | inl accepted =>
          obtain ⟨_, _, effect⟩ := accepted
          exact Or.inl ⟨_, .intro found effect⟩
      | inr refused =>
          obtain ⟨cause, refuses⟩ := refused
          exact Or.inr ⟨cause, .value found refuses⟩

/-- Arguments are all accepted, or there is a first one that is refused. -/
theorem split_at_refused
    (keyed : store.Keyed) (pairs : List (String × String)) :
    (∃ effects, List.Forall₂ store.Becomes pairs effects) ∨
      ∃ before refused after effects cause,
        pairs = before ++ refused :: after ∧
        List.Forall₂ store.Becomes before effects ∧
        store.Refuses refused cause := by
  induction pairs with
  | nil => exact Or.inl ⟨[], .nil⟩
  | cons head rest inductionHypothesis =>
      cases becomes_or_refuses keyed head with
      | inr refused =>
          obtain ⟨cause, refuses⟩ := refused
          exact Or.inr ⟨[], head, rest, [], cause, rfl, .nil, refuses⟩
      | inl accepted =>
          obtain ⟨effect, becomes⟩ := accepted
          cases inductionHypothesis with
          | inl allAccepted =>
              obtain ⟨effects, all⟩ := allAccepted
              exact Or.inl ⟨effect :: effects, .cons becomes all⟩
          | inr someRefused =>
              obtain ⟨before, refused, after, effects, cause, rfl, all, refuses⟩ := someRefused
              exact Or.inr ⟨head :: before, refused, after, effect :: effects, cause, rfl,
                .cons becomes all, refuses⟩

/-! ## The run up to the refused argument -/

/-- All pairs that accepted arguments set, in the order in which they are
set. -/
def settings (effects : List ((String × String) × List (String × String))) :
    List (String × String) :=
  effects.flatMap fun effect => effect.1 :: effect.2

section

variable {pair : String × String} {effect : (String × String) × List (String × String)}
  {arguments : Arguments} {cause : ValidationCause}

theorem processKeys_of_becomes
    (becomes : store.Becomes pair effect)
    (held : arguments.get? pair.1 = some pair.2)
    (keys : List String) :
    store.processKeys (pair.1 :: keys) arguments =
      store.processKeys keys (arguments.setAll (effect.1 :: effect.2)) := by
  cases becomes with
  | intro found isEffect =>
      have processed := Definition.process_of_effect held isEffect
      simp only [processKeys, found, processed, within_ok]

theorem processKeys_of_refuses
    (refuses : store.Refuses pair cause)
    (held : store.contains pair.1 = true → arguments.get? pair.1 = some pair.2)
    (keys : List String) :
    store.processKeys (pair.1 :: keys) arguments =
      (arguments, .error (.context (label "argument" pair.1) (.validation cause))) := by
  cases refuses with
  | unknown absent => simp only [processKeys, absent, within_error]
  | value found isRefused =>
      have stillHeld := held (Table.contains_iff.mpr ⟨_, found⟩)
      have failed := Definition.process_of_refuses stillHeld isRefused
      simp only [processKeys, found, failed, within_error]

/-- Other known keys than that of the argument are not set. -/
theorem Becomes.not_set
    (checked : store.validate = .ok ())
    (becomes : store.Becomes pair effect)
    {key : String} (known : store.contains key = true) (other : key ≠ pair.1) :
    key ∉ (effect.1 :: effect.2).map Prod.fst := by
  rw [List.map_cons, List.mem_cons, not_or]
  constructor
  · rw [becomes.same_key]
    exact other
  · intro member
    obtain ⟨derived, isDerived, rfl⟩ := List.mem_map.mp member
    rw [becomes.contains_derived checked derived isDerived] at known
    cases known

end

section

variable {before : List (String × String)}
  {effects : List ((String × String) × List (String × String))} {arguments : Arguments}

theorem not_mem_settings
    (checked : store.validate = .ok ())
    (all : List.Forall₂ store.Becomes before effects)
    {key : String} (known : store.contains key = true) (other : key ∉ before.map Prod.fst) :
    key ∉ (settings effects).map Prod.fst := by
  intro member
  obtain ⟨pair, isSet, rfl⟩ := List.mem_map.mp member
  obtain ⟨effect, inEffects, inSettings⟩ := List.mem_flatMap.mp isSet
  obtain ⟨earlier, inBefore, becomes⟩ := Paired.exists_left all inEffects
  have different : pair.1 ≠ earlier.1 := by
    intro same
    exact other (List.mem_map.mpr ⟨earlier, inBefore, same.symm⟩)
  exact becomes.not_set checked known different (List.mem_map_of_mem inSettings)

/-- A run over accepted arguments sets all their pairs.  None of them is the key
of an argument that is still to be checked, which so keeps its value. -/
theorem processKeys_of_all_become
    (checked : store.validate = .ok ())
    (all : List.Forall₂ store.Becomes before effects)
    (held : ∀ pair ∈ before, arguments.get? pair.1 = some pair.2)
    (distinct : (before.map Prod.fst).Nodup)
    (keys : List String) :
    store.processKeys (before.map Prod.fst ++ keys) arguments =
      store.processKeys keys (arguments.setAll (settings effects)) := by
  induction all generalizing arguments with
  | nil => rfl
  | @cons head effect rest further becomes restBecome inductionHypothesis =>
      rw [List.map_cons, List.nodup_cons] at distinct
      obtain ⟨headHeld, restHeld⟩ := List.forall_mem_cons.mp held
      have stillHeld : ∀ pair ∈ rest,
          (arguments.setAll (effect.1 :: effect.2)).get? pair.1 = some pair.2 := by
        intro pair member
        obtain ⟨_, _, pairBecomes⟩ := Paired.exists_right restBecome member
        have known : store.contains pair.1 = true :=
          pairBecomes.same_key ▸ pairBecomes.contains_key
        have different : pair.1 ≠ head.1 := by
          intro same
          exact distinct.1 (List.mem_map.mpr ⟨pair, member, same⟩)
        rw [Arguments.get?_setAll_of_not_mem (becomes.not_set checked known different)]
        exact restHeld pair member
      have parts : settings (effect :: further) = (effect.1 :: effect.2) ++ settings further := rfl
      rw [List.map_cons, List.cons_append, processKeys_of_becomes becomes headHeld,
        inductionHypothesis stillHeld distinct.2, parts, Arguments.setAll_append]

/-! ## What the run leaves -/

/-- No key is set twice. -/
theorem nodup_settings
    (keyed : store.Keyed)
    (checked : store.validate = .ok ())
    (all : List.Forall₂ store.Becomes before effects)
    (distinct : (before.map Prod.fst).Nodup) :
    ((settings effects).map Prod.fst).Nodup := by
  -- The accepted arguments alone are processed well, and what comes out has distinct keys.
  obtain ⟨processed, done⟩ : ∃ processed, store.process ⟨before, distinct⟩ = (processed, .ok ()) :=
    (process_succeeds_iff keyed checked).mpr (accepts_of_becomes all)
  obtain ⟨others, allOthers, entries⟩ := (process_eq_ok_iff keyed checked).mp done
  obtain rfl := List.right_unique_forall₂' Becomes.unique all allOthers
  have samePairs : (settings effects).Perm processed.entries := by
    rw [entries]
    exact (List.map_append_flatMap_perm effects Prod.fst Prod.snd).symm
  exact (samePairs.map Prod.fst).nodup_iff.mpr processed.distinct

theorem map_replacedBy_of_become
    {pairs : List (String × String)}
    (all : List.Forall₂ store.Becomes before effects)
    (found : ∀ effect ∈ effects, Table.lookup effect.1.1 pairs = some effect.1.2) :
    before.map (Arguments.replacedBy pairs) = effects.map Prod.fst := by
  induction all with
  | nil => rfl
  | cons becomes _ inductionHypothesis =>
      obtain ⟨headFound, restFound⟩ := List.forall_mem_cons.mp found
      rw [becomes.same_key] at headFound
      rw [List.map_cons, List.map_cons, inductionHypothesis restFound, Arguments.replacedBy,
        headFound, ← becomes.same_key]
      rfl

theorem lookup_settings
    {key : String}
    (other : key ∉ (effects.map Prod.fst).map Prod.fst) :
    Table.lookup key (settings effects) = Table.lookup key (effects.flatMap Prod.snd) := by
  induction effects with
  | nil => rfl
  | cons effect rest inductionHypothesis =>
      rw [List.map_cons, List.map_cons, List.mem_cons, not_or] at other
      have parts : settings (effect :: rest) = effect.1 :: (effect.2 ++ settings rest) := rfl
      rw [parts, Table.lookup, if_neg (Ne.symm other.1), Table.lookup_append,
        inductionHypothesis other.2, List.flatMap_cons, Table.lookup_append]

theorem filter_settings
    {wanted : String × String → Bool}
    (unwanted : ∀ effect ∈ effects, wanted effect.1 = false) :
    (settings effects).filter wanted = (effects.flatMap Prod.snd).filter wanted := by
  induction effects with
  | nil => rfl
  | cons effect rest inductionHypothesis =>
      obtain ⟨headUnwanted, restUnwanted⟩ := List.forall_mem_cons.mp unwanted
      have parts : settings (effect :: rest) = effect.1 :: (effect.2 ++ settings rest) := rfl
      rw [parts, List.filter_cons_of_neg (by simp [headUnwanted]), List.filter_append,
        inductionHypothesis restUnwanted, List.flatMap_cons, List.filter_append]

/-- The run ends with the arguments as the accepted ones leave them. -/
theorem process_of_refused
    (checked : store.validate = .ok ())
    {refused : String × String} {after : List (String × String)} {cause : ValidationCause}
    (split : arguments.entries = before ++ refused :: after)
    (all : List.Forall₂ store.Becomes before effects)
    (refuses : store.Refuses refused cause) :
    store.process arguments =
      (arguments.setAll (settings effects),
        .error (.context (label "argument" refused.1) (.validation cause))) := by
  have distinct := arguments.distinct
  rw [split, List.map_append, List.map_cons, List.nodup_append] at distinct
  have held : ∀ pair ∈ before ++ refused :: after, arguments.get? pair.1 = some pair.2 := by
    intro pair member
    rw [← split] at member
    exact Arguments.get?_eq_some_iff.mpr member
  obtain ⟨beforeHeld, behindHeld⟩ := List.forall_mem_append.mp held
  have keys : arguments.keys = before.map Prod.fst ++ refused.1 :: after.map Prod.fst := by
    rw [Arguments.keys, split, List.map_append, List.map_cons]
  rw [process, keys, processKeys_of_all_become checked all beforeHeld distinct.1]
  apply processKeys_of_refuses refuses
  intro known
  have other : refused.1 ∉ before.map Prod.fst := fun member =>
    distinct.2.2 refused.1 member refused.1 (List.mem_cons_self ..) rfl
  rw [Arguments.get?_setAll_of_not_mem (not_mem_settings checked all known other)]
  exact behindHeld refused (List.mem_cons_self ..)

/-- In their places stand what the accepted arguments became and the derived
values, and behind all arguments the derived pairs without a place. -/
theorem entries_of_refused
    (keyed : store.Keyed)
    (checked : store.validate = .ok ())
    {behind : List (String × String)}
    (split : arguments.entries = before ++ behind)
    (all : List.Forall₂ store.Becomes before effects) :
    (arguments.setAll (settings effects)).entries =
      effects.map Prod.fst ++
        (behind.map (Arguments.replacedBy (effects.flatMap Prod.snd)) ++
          (effects.flatMap Prod.snd).filter fun pair => !arguments.contains pair.1) := by
  have distinct := arguments.distinct
  rw [split, List.map_append, List.nodup_append] at distinct
  have once := nodup_settings keyed checked all distinct.1
  have ownKeys := keys_of_becomes all
  have settled : before.map (Arguments.replacedBy (settings effects)) = effects.map Prod.fst := by
    apply map_replacedBy_of_become all
    intro effect member
    apply Table.lookup_of_mem once
    exact List.mem_flatMap.mpr ⟨effect, member, List.mem_cons_self ..⟩
  have replaced : behind.map (Arguments.replacedBy (settings effects)) =
      behind.map (Arguments.replacedBy (effects.flatMap Prod.snd)) := by
    apply List.map_congr_left
    intro pair member
    have other : pair.1 ∉ (effects.map Prod.fst).map Prod.fst := by
      rw [ownKeys]
      intro settledKey
      exact distinct.2.2 pair.1 settledKey pair.1 (List.mem_map_of_mem member) rfl
    rw [Arguments.replacedBy, lookup_settings other, Arguments.replacedBy]
  have given : ∀ effect ∈ effects, (!arguments.contains effect.1.1) = false := by
    intro effect member
    have isKey : effect.1.1 ∈ before.map Prod.fst := by
      rw [← ownKeys]
      exact List.mem_map_of_mem (List.mem_map_of_mem member)
    rw [Bool.not_eq_false', Arguments.contains_iff, Arguments.keys, split, List.map_append]
    exact List.mem_append_left _ isKey
  rw [Arguments.entries_setAll once, split, List.map_append, settled, replaced,
    filter_settings given, List.append_assoc]

end

/-- Processing fails with the first argument that has no parameter or that its
parameter refuses.  The arguments before it are left as processing makes them,
and the others as they were given, but with the derived values where they have
derived keys; the derived pairs whose keys were not given follow.  A parameter
that refuses its argument alone changes nothing. -/
theorem process_interrupted
    (reachable : store.Reachable)
    (checked : store.validate = .ok ())
    {arguments left : Arguments} {fault : Fault}
    (failed : store.processSteps.outcome arguments = (left, .error fault)) :
    store.process arguments = (left, .error fault) ∧
      (∃ before refused after effects cause,
        arguments.entries = before ++ refused :: after ∧
        List.Forall₂ store.Becomes before effects ∧
        store.Refuses refused cause ∧
        ¬ store.Accepts refused ∧
        fault = .context (label "argument" refused.1) (.validation cause) ∧
        left.entries =
          effects.map Prod.fst ++
            ((refused :: after).map (Arguments.replacedBy (effects.flatMap Prod.snd)) ++
              (effects.flatMap Prod.snd).filter fun pair => !arguments.contains pair.1)) ∧
      ∀ (definition : Definition) (single kept : Arguments) (refusal : Fault),
        definition.processSteps.outcome single = (kept, .error refusal) →
          kept = single ∧ definition.process single = .error refusal := by
  have keyed := reachable.keyed
  rw [outcome_processSteps] at failed
  refine ⟨failed, ?_, ?_⟩
  · cases split_at_refused keyed arguments.entries with
    | inl accepted =>
        obtain ⟨effects, all⟩ := accepted
        obtain ⟨processed, done⟩ :=
          (process_succeeds_iff keyed checked).mpr (accepts_of_becomes all)
        rw [failed, Prod.mk.injEq] at done
        cases done.2
    | inr refused =>
        obtain ⟨before, refused, after, effects, cause, split, all, refuses⟩ := refused
        have stopped := process_of_refused checked split all refuses
        rw [failed, Prod.mk.injEq, Except.error.injEq] at stopped
        obtain ⟨rfl, isFault⟩ := stopped
        exact ⟨before, refused, after, effects, cause, split, all, refuses,
          refuses.not_accepts, isFault, entries_of_refused keyed checked split all⟩
  · intro definition single kept refusal refused
    rw [Definition.outcome_processSteps] at refused
    cases outcome : definition.process single with
    | ok processed =>
        rw [outcome, settle, Prod.mk.injEq] at refused
        cases refused.2
    | error raised =>
        rw [outcome, settle, Prod.mk.injEq, Except.error.injEq] at refused
        exact ⟨refused.1.symm, congrArg Except.error refused.2⟩

/-- The first argument derives the key of the third one. -/
def crossing : Arguments :=
  ⟨[("society", " 12 - 345"), ("name", "Someone"), ("society.player", "x"), ("mode", "none")],
    by decide⟩

private theorem run_crossing :
    ∃ store left fault,
      ofPairs registration = .ok store ∧
      store.validate = .ok () ∧
      store.contains "society.player" = false ∧
      store.process crossing = (left, .error fault) ∧
      fault.message =
        "argument 'society.player': validation error: " ++
          "no corresponding parameter registered for template" ∧
      left.entries =
        [("society", "12-345"), ("name", "Someone"), ("society.player", "12"), ("mode", "none"),
          ("society.char", "345")] := by
  obtain ⟨⟨⟩, checks⟩ := exists_of_isOk
    (ofPairs registration >>= fun store => store.validate)
    (by decide +kernel)
  rw [bind_eq_ok_iff] at checks
  obtain ⟨store, made, checked⟩ := checks
  have shown :
      (ofPairs registration).toOption.map (fun store =>
        (store.contains "society.player", (store.process crossing).1.entries,
          (faultOf? (store.process crossing).2).map Fault.message)) =
        some (false,
          [("society", "12-345"), ("name", "Someone"), ("society.player", "12"),
            ("mode", "none"), ("society.char", "345")],
          some ("argument 'society.player': validation error: " ++
            "no corresponding parameter registered for template")) := by
    decide +kernel
  rw [made] at shown
  obtain ⟨unknown, rest⟩ := Prod.mk.inj (Option.some.inj shown)
  obtain ⟨entries, message⟩ := Prod.mk.inj rest
  obtain ⟨fault, isFault, message⟩ := Option.map_eq_some_iff.mp message
  exact ⟨store, _, fault, made, checked, unknown, Prod.ext rfl (faultOf?_eq_some_iff.mp isFault),
    message, entries⟩

theorem process_interrupted_crossing :
    ∃ store left fault before refused after effects cause,
      ofPairs registration = .ok store ∧
      store.validate = .ok () ∧
      store.processSteps.outcome crossing = (left, .error fault) ∧
      crossing.entries = before ++ refused :: after ∧
      List.Forall₂ store.Becomes before effects ∧
      store.Refuses refused cause ∧
      fault.message =
        "argument 'society.player': validation error: " ++
          "no corresponding parameter registered for template" ∧
      left.entries =
        [("society", "12-345"), ("name", "Someone"), ("society.player", "12"), ("mode", "none"),
          ("society.char", "345")] ∧
      left.entries =
        effects.map Prod.fst ++
          ((refused :: after).map (Arguments.replacedBy (effects.flatMap Prod.snd)) ++
            (effects.flatMap Prod.snd).filter fun pair => !crossing.contains pair.1) := by
  obtain ⟨store, left, fault, made, checked, _, failed, message, entries⟩ := run_crossing
  rw [← outcome_processSteps] at failed
  obtain ⟨_, ⟨before, refused, after, effects, cause, split, all, refuses, _, _, form⟩,
    _⟩ :=
    process_interrupted (.ofPairs made) checked failed
  exact ⟨store, left, fault, before, refused, after, effects, cause, made, checked, failed, split,
    all, refuses, message, entries, form⟩

/-- The refused argument and those behind it need not stay as they were given:
one of them may have a key that an argument before them derives. -/
theorem process_rewrites_refused :
    ∃ store left fault,
      ofPairs registration = .ok store ∧
      store.validate = .ok () ∧
      store.process crossing = (left, .error fault) ∧
      ("society.player", "x") ∈ crossing.entries ∧
      ("society.player", "12") ∈ left.entries ∧
      ¬ ∃ before refused after,
        crossing.entries = before ++ refused :: after ∧
        (∀ pair ∈ before, store.Accepts pair) ∧
        ¬ store.Accepts refused ∧
        ∀ pair ∈ refused :: after, pair ∈ left.entries := by
  obtain ⟨store, left, fault, made, checked, unknown, failed, _, entries⟩ := run_crossing
  have given : ("society.player", "x") ∈ crossing.entries := by decide
  refine ⟨store, left, fault, made, checked, failed, given, by rw [entries]; decide, ?_⟩
  intro ⟨before, refused, after, split, accepted, _, kept⟩
  rw [split] at given
  cases List.mem_append.mp given with
  | inl inBefore =>
      obtain ⟨definition, found, _⟩ := accepted _ inBefore
      have absent : store.get? "society.player" = none := Table.contains_eq_false_iff.mp unknown
      cases absent.symm.trans found
  | inr behind =>
      have stays := kept _ behind
      rw [entries] at stays
      revert stays
      decide

end Store

end Chronicle.Parameter
