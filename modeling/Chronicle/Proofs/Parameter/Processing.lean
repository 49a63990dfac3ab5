import Mathlib.Data.List.Perm.Basic
import Chronicle.Proofs.Arguments
import Chronicle.Proofs.Paired
import Chronicle.Proofs.Parameter.SocietyId
import Chronicle.Proofs.Parameter.Store

/-!
# What processing makes of arguments

Processing rewrites each argument in its place and adds the pairs that follow
from it at the end.  In a checked store no derived key is the ID of a parameter,
and derived keys of different parameters differ, so what is added never meets
what is there.
-/

namespace Chronicle.Parameter

open Yaml (Value)

/-! ## Derived keys -/

namespace Definition

/-- The two keys end with different letters before their last one. -/
theorem playerKey_ne_characterKey (id other : String) :
    playerKey id ≠ characterKey other := by
  intro same
  have characters := congrArg (fun key => key.toList.reverse) same
  simp [playerKey, characterKey] at characters

theorem mem_derivedKeys
    {definition : Definition} {key : String}
    (derived : key ∈ definition.derivedKeys) :
    key = playerKey definition.id ∨ key = characterKey definition.id := by
  unfold derivedKeys at derived
  split at derived
  · simpa using derived
  · cases derived

/-! ## One argument -/

/-- The values that a parameter accepts. -/
def Accepts (definition : Definition) (value : String) : Prop :=
  match definition.form with
  | .text => True
  | .societyId => ∃ societyId, SocietyId.Written value societyId
  | .choice choices => value ∈ choices

/-- What an accepted value becomes, and the pairs that follow from it. -/
inductive Effect (definition : Definition) (value : String) :
    String → List (String × String) → Prop
  | text
      (isText : definition.form = .text) :
      Effect definition value value []
  | choice {choices : List String}
      (isChoice : definition.form = .choice choices)
      (listed : value ∈ choices) :
      Effect definition value value []
  | societyId {societyId : SocietyId}
      (isSocietyId : definition.form = .societyId)
      (written : SocietyId.Written value societyId) :
      Effect definition value (societyId.player ++ "-" ++ societyId.character)
        [(definition.id ++ ".player", societyId.player),
          (definition.id ++ ".char", societyId.character)]

theorem Effect.accepts
    {definition : Definition} {value newValue : String} {derived : List (String × String)}
    (effect : definition.Effect value newValue derived) :
    definition.Accepts value := by
  cases effect with
  | text isText => simp [Accepts, isText]
  | choice isChoice listed => simpa [Accepts, isChoice] using listed
  | societyId isSocietyId written => simpa [Accepts, isSocietyId] using ⟨_, written⟩

theorem Effect.unique
    {definition : Definition} {value newValue otherValue : String}
    {derived others : List (String × String)}
    (effect : definition.Effect value newValue derived)
    (other : definition.Effect value otherValue others) :
    newValue = otherValue ∧ derived = others := by
  cases effect with
  | text isText =>
      cases other with
      | text => exact ⟨rfl, rfl⟩
      | choice => exact ⟨rfl, rfl⟩
      | societyId isSocietyId => simp [isText] at isSocietyId
  | choice isChoice =>
      cases other with
      | text => exact ⟨rfl, rfl⟩
      | choice => exact ⟨rfl, rfl⟩
      | societyId isSocietyId => simp [isChoice] at isSocietyId
  | societyId isSocietyId written =>
      cases other with
      | text isText => simp [isText] at isSocietyId
      | choice isChoice => simp [isChoice] at isSocietyId
      | societyId _ otherWritten =>
          cases written.unique otherWritten
          exact ⟨rfl, rfl⟩

theorem Effect.mem_derivedKeys
    {definition : Definition} {value newValue : String} {derived : List (String × String)}
    (effect : definition.Effect value newValue derived) :
    ∀ pair ∈ derived, pair.1 ∈ definition.derivedKeys := by
  intro pair member
  cases effect with
  | text => cases member
  | choice => cases member
  | societyId isSocietyId =>
      rw [derivedKeys, isSocietyId]
      simp only [List.mem_cons, List.not_mem_nil, or_false] at member
      rcases member with rfl | rfl
      · exact List.mem_cons_self ..
      · exact List.mem_cons_of_mem _ (List.mem_cons_self ..)

/-- Why a parameter refuses a value. -/
inductive Refuses (definition : Definition) (value : String) : ValidationCause → Prop
  | societyId
      (isSocietyId : definition.form = .societyId)
      (unwritten : ∀ societyId, ¬ SocietyId.Written value societyId) :
      Refuses definition value (.argumentNotSocietyId value)
  | choice {choices : List String}
      (isChoice : definition.form = .choice choices)
      (unlisted : value ∉ choices) :
      Refuses definition value (.argumentNotChoice value choices)

theorem Refuses.not_accepts
    {definition : Definition} {value : String} {cause : ValidationCause}
    (refuses : definition.Refuses value cause) :
    ¬ definition.Accepts value := by
  cases refuses with
  | societyId isSocietyId unwritten => simpa [Accepts, isSocietyId] using unwritten
  | choice isChoice unlisted => simpa [Accepts, isChoice] using unlisted

theorem effect_or_refuses (definition : Definition) (value : String) :
    (∃ newValue derived, definition.Effect value newValue derived) ∨
      ∃ cause, definition.Refuses value cause := by
  cases form : definition.form with
  | text => exact Or.inl ⟨value, [], .text form⟩
  | societyId =>
      by_cases stated : ∃ societyId, SocietyId.Written value societyId
      · obtain ⟨societyId, written⟩ := stated
        exact Or.inl ⟨_, _, .societyId form written⟩
      · exact Or.inr ⟨_, .societyId form (not_exists.mp stated)⟩
  | choice choices =>
      by_cases listed : value ∈ choices
      · exact Or.inl ⟨value, [], .choice form listed⟩
      · exact Or.inr ⟨_, .choice form listed⟩

section

variable {definition : Definition} {arguments : Arguments} {value newValue : String}
  {derived : List (String × String)} {cause : ValidationCause}

/-- An accepted argument is set to its normal form, and what follows from it
after it. -/
theorem process_of_effect
    (held : arguments.get? definition.id = some value)
    (effect : definition.Effect value newValue derived) :
    definition.process arguments =
      .ok (arguments.setAll ((definition.id, newValue) :: derived)) := by
  rw [process, held]
  cases effect with
  | text isText =>
      have same := Arguments.set_of_get? held
      simp [isText, Arguments.setAll, same]
  | choice isChoice listed =>
      have same := Arguments.set_of_get? held
      simp [isChoice, listed, Arguments.setAll, same]
  | societyId isSocietyId written =>
      have read := SocietyId.ofText?_eq_some_iff.mpr written
      simp only [isSocietyId, read]
      rfl

theorem process_of_refuses
    (held : arguments.get? definition.id = some value)
    (refuses : definition.Refuses value cause) :
    definition.process arguments = .error (.validation cause) := by
  rw [process, held]
  cases refuses with
  | societyId isSocietyId unwritten =>
      have unread : SocietyId.ofText? value = none := by
        apply Option.eq_none_iff_forall_ne_some.mpr
        intro societyId read
        exact unwritten societyId (SocietyId.ofText?_eq_some_iff.mp read)
      simp only [isSocietyId, unread]
  | choice isChoice unlisted => simp [isChoice, unlisted]

end

theorem Effect.nodup_derived
    {definition : Definition} {value newValue : String} {derived : List (String × String)}
    (effect : definition.Effect value newValue derived) :
    (derived.map Prod.fst).Nodup := by
  cases effect with
  | text => exact List.nodup_nil
  | choice => exact List.nodup_nil
  | societyId => simp

/-- The first setting finds its key in its place, the others find none. -/
theorem Effect.entries_setAll
    {definition : Definition} {arguments : Arguments} {value newValue : String}
    {before after derived : List (String × String)}
    (effect : definition.Effect value newValue derived)
    (split : arguments.entries = before ++ (definition.id, value) :: after)
    (free : ∀ key ∈ definition.derivedKeys, key ∉ arguments.keys) :
    (arguments.setAll ((definition.id, newValue) :: derived)).entries =
      before ++ (definition.id, newValue) :: after ++ derived := by
  have notBefore : definition.id ∉ before.map Prod.fst := by
    have distinct := arguments.distinct
    rw [split, List.map_append, List.nodup_append] at distinct
    intro member
    exact distinct.2.2 definition.id member definition.id (by simp) rfl
  have placed : (arguments.set definition.id newValue).entries =
      before ++ (definition.id, newValue) :: after := by
    change Table.setEntry definition.id newValue arguments.entries = _
    rw [split, Table.setEntry_append_cons notBefore]
  have sameKeys : (arguments.set definition.id newValue).keys = arguments.keys := by
    simp [Arguments.keys, placed, split]
  have derivedFree : ∀ pair ∈ derived,
      pair.1 ∉ (arguments.set definition.id newValue).keys := by
    intro pair member
    rw [sameKeys]
    exact free pair.1 (effect.mem_derivedKeys pair member)
  rw [Arguments.setAll_cons, Arguments.entries_setAll_of_free effect.nodup_derived derivedFree,
    placed]

/-- A parameter whose derived keys are free rewrites its argument in place and
adds what follows from it, or refuses it. -/
theorem process_spec
    {definition : Definition} {arguments : Arguments} {value : String}
    {before after : List (String × String)}
    (split : arguments.entries = before ++ (definition.id, value) :: after)
    (free : ∀ key ∈ definition.derivedKeys, key ∉ arguments.keys) :
    (∃ newValue derived processed,
        definition.Effect value newValue derived ∧
        definition.process arguments = .ok processed ∧
        processed.entries = before ++ (definition.id, newValue) :: after ++ derived) ∨
      ¬ definition.Accepts value ∧
        ∃ cause, definition.process arguments = .error (.validation cause) := by
  have held : arguments.get? definition.id = some value := by
    rw [Arguments.get?_eq_some_iff, split]
    simp
  cases definition.effect_or_refuses value with
  | inl accepted =>
      obtain ⟨newValue, derived, effect⟩ := accepted
      exact Or.inl ⟨newValue, derived, _, effect, process_of_effect held effect,
        effect.entries_setAll split free⟩
  | inr refused =>
      obtain ⟨cause, refuses⟩ := refused
      exact Or.inr ⟨refuses.not_accepts, cause, process_of_refuses held refuses⟩

end Definition

/-! ## All arguments -/

namespace Store

/-- The key is the ID of a parameter that accepts the value. -/
def Accepts (store : Store) (pair : String × String) : Prop :=
  ∃ definition, store.get? pair.1 = some definition ∧ definition.Accepts pair.2

/-- What an argument becomes in its place, and the pairs that follow from it. -/
inductive Becomes (store : Store) :
    String × String → (String × String) × List (String × String) → Prop
  | intro {definition : Definition} {value newValue : String} {derived : List (String × String)}
      (found : store.get? definition.id = some definition)
      (effect : definition.Effect value newValue derived) :
      Becomes store (definition.id, value) ((definition.id, newValue), derived)

/-- None of the keys is one that a parameter derives. -/
def Underived (store : Store) (keys : List String) : Prop :=
  ∀ id definition, store.get? id = some definition →
    ∀ key ∈ definition.derivedKeys, key ∉ keys

/-- The pairs follow from arguments with the given keys. -/
def Follow (keys : List String) (derived : List (String × String)) : Prop :=
  ∀ pair ∈ derived, ∃ id ∈ keys,
    pair.1 = Definition.playerKey id ∨ pair.1 = Definition.characterKey id

variable {store : Store}

theorem Becomes.accepts
    {pair : String × String} {effect : (String × String) × List (String × String)}
    (becomes : store.Becomes pair effect) :
    store.Accepts pair := by
  cases becomes with
  | intro found effect => exact ⟨_, found, effect.accepts⟩

theorem Becomes.same_key
    {pair : String × String} {effect : (String × String) × List (String × String)}
    (becomes : store.Becomes pair effect) :
    effect.1.1 = pair.1 := by
  cases becomes with
  | intro => rfl

theorem Becomes.unique :
    Relator.RightUnique store.Becomes := by
  rintro pair effect other ⟨found, isEffect⟩ becomes
  generalize isPair : (_, _) = pair at becomes
  obtain ⟨otherFound, isOtherEffect⟩ := becomes
  obtain ⟨sameId, rfl⟩ := Prod.mk.inj isPair
  rw [sameId, otherFound, Option.some.injEq] at found
  subst found
  obtain ⟨rfl, rfl⟩ := isEffect.unique isOtherEffect
  rfl

/-- The keys that one more parameter derives are not among the pairs so far:
they are no argument keys, and other parameters derive other keys. -/
theorem derivedKeys_free
    {definition : Definition} {value : String} {settled rest derived : List (String × String)}
    {arguments : Arguments}
    (split : arguments.entries = settled ++ ((definition.id, value) :: rest ++ derived))
    (found : store.get? definition.id = some definition)
    (underived : store.Underived (settled.map Prod.fst ++ definition.id :: rest.map Prod.fst))
    (follow : Follow (settled.map Prod.fst) derived) :
    ∀ key ∈ definition.derivedKeys, key ∉ arguments.keys := by
  intro key isDerived member
  have unsettled : definition.id ∉ settled.map Prod.fst := by
    have distinct := arguments.distinct
    rw [split, List.map_append, List.nodup_append] at distinct
    intro inSettled
    exact distinct.2.2 _ inSettled definition.id (by simp) rfl
  have notSupplied := underived _ definition found key isDerived
  have inDerived : key ∈ derived.map Prod.fst := by
    rw [Arguments.keys, split, List.map_append, List.map_append, ← List.append_assoc] at member
    exact (List.mem_append.mp member).resolve_left notSupplied
  obtain ⟨pair, inPairs, rfl⟩ := List.mem_map.mp inDerived
  obtain ⟨id, settledId, isKeyOf⟩ := follow pair inPairs
  have sameId : definition.id = id := by
    rcases Definition.mem_derivedKeys isDerived with isPlayer | isCharacter
    · rcases isKeyOf with otherPlayer | otherCharacter
      · exact (String.append_left_inj _).mp (isPlayer.symm.trans otherPlayer)
      · exact absurd (isPlayer.symm.trans otherCharacter)
          (Definition.playerKey_ne_characterKey _ _)
    · rcases isKeyOf with otherPlayer | otherCharacter
      · exact absurd (otherPlayer.symm.trans isCharacter)
          (Definition.playerKey_ne_characterKey _ _)
      · exact (String.append_left_inj _).mp (isCharacter.symm.trans otherCharacter)
  exact unsettled (sameId ▸ settledId)

/-- One argument of the run: it is processed if it is accepted, and stops the
run otherwise. -/
theorem processKeys_cons
    (keyed : store.Keyed)
    {key value : String} {settled rest derived : List (String × String)}
    {arguments : Arguments}
    (split : arguments.entries = settled ++ ((key, value) :: rest ++ derived))
    (underived : store.Underived (settled.map Prod.fst ++ key :: rest.map Prod.fst))
    (follow : Follow (settled.map Prod.fst) derived)
    (keys : List String) :
    (∃ newValue new processed,
        store.Becomes (key, value) ((key, newValue), new) ∧
        store.processKeys (key :: keys) arguments = store.processKeys keys processed ∧
        processed.entries = settled ++ [(key, newValue)] ++ (rest ++ (derived ++ new)) ∧
        Follow ((settled ++ [(key, newValue)]).map Prod.fst) (derived ++ new)) ∨
      ¬ store.Accepts (key, value) ∧
        ∃ cause, store.processKeys (key :: keys) arguments =
          (arguments, .error (.context (label "argument" key) (.validation cause))) := by
  cases found : store.get? key with
  | none =>
      refine Or.inr ⟨?_, .noParameter, by simp [processKeys, found]⟩
      rintro ⟨definition, known, _⟩
      rw [found] at known
      cases known
  | some definition =>
      obtain rfl := keyed key definition found
      have free := derivedKeys_free split found underived follow
      rw [processKeys, found]
      have placed : arguments.entries =
          settled ++ (definition.id, value) :: (rest ++ derived) := by
        simpa using split
      rcases Definition.process_spec placed free with
        ⟨newValue, new, processed, effect, done, entries⟩ | ⟨refused, cause, failed⟩
      · refine Or.inl ⟨newValue, new, processed, .intro found effect, ?_, by simp [entries], ?_⟩
        · simp [done]
        · intro pair member
          rcases List.mem_append.mp member with old | isNew
          · obtain ⟨id, settledId, isKeyOf⟩ := follow pair old
            exact ⟨id, by simp [settledId], isKeyOf⟩
          · exact ⟨definition.id, by simp, Definition.mem_derivedKeys
              (effect.mem_derivedKeys pair isNew)⟩
      · refine Or.inr ⟨?_, cause, by simp [failed]⟩
        rintro ⟨other, known, accepted⟩
        rw [found, Option.some.injEq] at known
        exact refused (known ▸ accepted)

/-- A run over arguments none of which has a derived key either rewrites all of
them, or rewrites those before the first that is not accepted and stops
there. -/
theorem processKeys_spec
    (keyed : store.Keyed)
    {settled rest derived : List (String × String)} {arguments : Arguments}
    (split : arguments.entries = settled ++ (rest ++ derived))
    (underived : store.Underived (settled.map Prod.fst ++ rest.map Prod.fst))
    (follow : Follow (settled.map Prod.fst) derived) :
    (∃ effects processed,
        List.Forall₂ store.Becomes rest effects ∧
        store.processKeys (rest.map Prod.fst) arguments = (processed, .ok ()) ∧
        processed.entries =
          settled ++ (effects.map Prod.fst ++ (derived ++ effects.flatMap Prod.snd))) ∨
      ∃ before refused after effects left cause,
        rest = before ++ refused :: after ∧
        List.Forall₂ store.Becomes before effects ∧
        ¬ store.Accepts refused ∧
        store.processKeys (rest.map Prod.fst) arguments =
          (left, .error (.context (label "argument" refused.1) (.validation cause))) ∧
        left.entries =
          settled ++ (effects.map Prod.fst ++
            (refused :: after ++ (derived ++ effects.flatMap Prod.snd))) := by
  -- The arguments settled so far grow; the pairs behind follow from those and no others.
  induction rest generalizing settled derived arguments with
  | nil => exact Or.inl ⟨[], arguments, .nil, rfl, by simpa using split⟩
  | cons head rest inductionHypothesis =>
      obtain ⟨key, value⟩ := head
      rw [List.map_cons] at underived ⊢
      rcases processKeys_cons keyed split underived follow (rest.map Prod.fst) with
        ⟨newValue, new, next, becomes, continued, nextSplit, nextFollow⟩ |
        ⟨refused, cause, stopped⟩
      · rw [continued]
        have nextUnderived :
            store.Underived
              ((settled ++ [(key, newValue)]).map Prod.fst ++ rest.map Prod.fst) := by
          simpa using underived
        rcases inductionHypothesis nextSplit nextUnderived nextFollow with
          ⟨effects, processed, all, done, entries⟩ |
          ⟨before, refused, after, effects, left, cause, parts, some_, isRefused, failed, entries⟩
        · exact Or.inl ⟨_ :: effects, processed, .cons becomes all, done, by simp [entries]⟩
        · exact Or.inr ⟨_ :: before, refused, after, _ :: effects, left, cause,
            by rw [parts, List.cons_append], .cons becomes some_, isRefused, failed,
            by simp [entries]⟩
      · exact Or.inr ⟨[], (key, value), rest, [], arguments, cause, rfl, .nil, refused, stopped,
          by simpa using split⟩

/-- A run that ends well has met known keys only, whatever became of the
arguments on the way. -/
theorem known_of_processKeys
    {keys : List String} {arguments processed : Arguments}
    (done : store.processKeys keys arguments = (processed, .ok ())) :
    ∀ key ∈ keys, store.contains key = true := by
  induction keys generalizing arguments with
  | nil => simp
  | cons key rest inductionHypothesis =>
      rw [processKeys] at done
      cases found : store.get? key with
      | none => simp [found] at done
      | some definition =>
          rw [found] at done
          dsimp only at done
          split at done
          · refine List.forall_mem_cons.mpr ⟨?_, inductionHypothesis done⟩
            exact Table.contains_iff.mpr ⟨definition, found⟩
          · cases done

/-- In a checked store no derived key is known. -/
theorem underived_of_known
    (checked : store.validate = .ok ())
    {keys : List String}
    (known : ∀ key ∈ keys, store.contains key = true) :
    store.Underived keys := by
  intro id definition found key isDerived member
  have absent := (validate_eq_ok_iff.mp checked id definition found).2 key isDerived
  rw [known key member] at absent
  cases absent

theorem process_spec
    (keyed : store.Keyed)
    (checked : store.validate = .ok ())
    {arguments : Arguments}
    (known : ∀ key ∈ arguments.keys, store.contains key = true) :
    (∃ effects processed,
        List.Forall₂ store.Becomes arguments.entries effects ∧
        store.process arguments = (processed, .ok ()) ∧
        processed.entries = effects.map Prod.fst ++ effects.flatMap Prod.snd) ∨
      (∃ pair ∈ arguments.entries, ¬ store.Accepts pair) ∧
        ∃ left fault, store.process arguments = (left, .error fault) := by
  have split : arguments.entries = [] ++ (arguments.entries ++ []) := by simp
  have follow : Follow (([] : List (String × String)).map Prod.fst) [] := by simp [Follow]
  rcases processKeys_spec keyed split (underived_of_known checked known) follow with
    ⟨effects, processed, all, done, entries⟩ |
    ⟨before, refused, after, effects, left, cause, split, _, isRefused, failed, _⟩
  · exact Or.inl ⟨effects, processed, all, done, entries⟩
  · refine Or.inr ⟨⟨refused, ?_, isRefused⟩, left, _, failed⟩
    rw [split]
    exact List.mem_append_right before (List.mem_cons_self ..)

/-! ## Closed form -/

theorem accepts_of_becomes
    {pairs : List (String × String)} {effects : List ((String × String) × List (String × String))}
    (all : List.Forall₂ store.Becomes pairs effects) :
    ∀ pair ∈ pairs, store.Accepts pair := by
  intro pair member
  obtain ⟨_, _, becomes⟩ := Paired.exists_right all member
  exact becomes.accepts

theorem keys_of_becomes
    {pairs : List (String × String)} {effects : List ((String × String) × List (String × String))}
    (all : List.Forall₂ store.Becomes pairs effects) :
    (effects.map Prod.fst).map Prod.fst = pairs.map Prod.fst := by
  induction all with
  | nil => rfl
  | cons becomes _ inductionHypothesis =>
      simp only [List.map_cons, becomes.same_key, inductionHypothesis]

theorem known_of_accepts
    {arguments : Arguments}
    (accepted : ∀ pair ∈ arguments.entries, store.Accepts pair) :
    ∀ key ∈ arguments.keys, store.contains key = true := by
  intro key member
  obtain ⟨pair, inPairs, rfl⟩ := List.mem_map.mp member
  obtain ⟨definition, found, _⟩ := accepted pair inPairs
  exact Table.contains_iff.mpr ⟨definition, found⟩

/-- Processing succeeds with exactly the effects of all arguments in their
places and what follows from them behind. -/
theorem process_eq_ok_iff
    (keyed : store.Keyed)
    (checked : store.validate = .ok ())
    {arguments processed : Arguments} :
    store.process arguments = (processed, .ok ()) ↔
      ∃ effects, List.Forall₂ store.Becomes arguments.entries effects ∧
        processed.entries = effects.map Prod.fst ++ effects.flatMap Prod.snd := by
  constructor
  · intro done
    rcases process_spec keyed checked (known_of_processKeys done) with
      ⟨effects, other, all, otherDone, entries⟩ | ⟨_, left, fault, failed⟩
    · rw [done, Prod.mk.injEq] at otherDone
      exact ⟨effects, all, otherDone.1 ▸ entries⟩
    · rw [done, Prod.mk.injEq] at failed
      cases failed.2
  · rintro ⟨effects, all, entries⟩
    have accepted := accepts_of_becomes all
    rcases process_spec keyed checked (known_of_accepts accepted) with
      ⟨others, other, allOthers, done, otherEntries⟩ | ⟨⟨pair, member, refused⟩, _⟩
    · obtain rfl := List.right_unique_forall₂' Becomes.unique all allOthers
      rw [done, Arguments.eq_of_entries_eq (entries.trans otherEntries.symm)]
    · exact absurd (accepted pair member) refused

theorem process_succeeds_iff
    (keyed : store.Keyed)
    (checked : store.validate = .ok ())
    {arguments : Arguments} :
    (∃ processed, store.process arguments = (processed, .ok ())) ↔
      ∀ pair ∈ arguments.entries, store.Accepts pair := by
  constructor
  · rintro ⟨processed, done⟩
    obtain ⟨effects, all, _⟩ := (process_eq_ok_iff keyed checked).mp done
    exact accepts_of_becomes all
  · intro accepted
    rcases process_spec keyed checked (known_of_accepts accepted) with
      ⟨_, processed, _, done, _⟩ | ⟨⟨pair, member, refused⟩, _⟩
    · exact ⟨processed, done⟩
    · exact absurd (accepted pair member) refused

/-- Processing arguments in another order gives every key the same value. -/
theorem process_of_perm
    (keyed : store.Keyed)
    (checked : store.validate = .ok ())
    {arguments permuted processed : Arguments}
    (reordered : permuted.entries.Perm arguments.entries)
    (done : store.process arguments = (processed, .ok ())) :
    ∃ result, store.process permuted = (result, .ok ()) ∧
      ∀ key, result.get? key = processed.get? key := by
  obtain ⟨effects, all, entries⟩ := (process_eq_ok_iff keyed checked).mp done
  obtain ⟨others, allOthers, reorderedEffects⟩ :=
    List.perm_comp_forall₂ reordered all
  have samePairs :
      (others.map Prod.fst ++ others.flatMap Prod.snd).Perm processed.entries := by
    rw [entries]
    exact (reorderedEffects.map _).append (reorderedEffects.flatMap_right _)
  have distinct :
      ((others.map Prod.fst ++ others.flatMap Prod.snd).map Prod.fst).Nodup :=
    (samePairs.map Prod.fst).nodup_iff.mpr processed.distinct
  exact ⟨⟨_, distinct⟩, (process_eq_ok_iff keyed checked).mpr ⟨others, allOthers, rfl⟩,
    Arguments.get?_eq_of_perm samePairs⟩

/-- In a store that passes its checks, processing succeeds exactly on known keys
with accepted values.  Then it rewrites each argument in its place and adds what
follows from them in their order, under keys that are neither given nor added
twice, and the order of the arguments does not matter to any value. -/
theorem process_closed_form
    (reachable : store.Reachable)
    (checked : store.validate = .ok ())
    (arguments : Arguments) :
    ((∃ processed, store.process arguments = (processed, .ok ())) ↔
        ∀ pair ∈ arguments.entries, store.Accepts pair) ∧
      ∀ processed, store.process arguments = (processed, .ok ()) →
        (∃ effects,
          List.Forall₂ store.Becomes arguments.entries effects ∧
          processed.entries = effects.map Prod.fst ++ effects.flatMap Prod.snd ∧
          (arguments.keys ++ (effects.flatMap Prod.snd).map Prod.fst).Nodup) ∧
        store.Underived arguments.keys ∧
        ∀ permuted : Arguments, permuted.entries.Perm arguments.entries →
          ∃ result, store.process permuted = (result, .ok ()) ∧
            ∀ key, result.get? key = processed.get? key := by
  have keyed := reachable.keyed
  refine ⟨process_succeeds_iff keyed checked, ?_⟩
  intro processed done
  obtain ⟨effects, all, entries⟩ := (process_eq_ok_iff keyed checked).mp done
  refine ⟨⟨effects, all, entries, ?_⟩, ?_, ?_⟩
  · have distinct := processed.distinct
    rwa [entries, List.map_append, keys_of_becomes all] at distinct
  · exact underived_of_known checked (known_of_accepts (accepts_of_becomes all))
  · exact fun permuted reordered => process_of_perm keyed checked reordered done

/-- A society ID, a choice and a text. -/
def registration : List (Value × Value) :=
  [(.string "mode", .mapping
      [(.string "type", .string "choice"), (.string "description", .string "Mode"),
        (.string "example", .string "core"),
        (.string "choices", .sequence [.string "core", .string "standard"])]),
    (.string "society", .mapping
      [(.string "type", .string "societyid"), (.string "description", .string "Society ID"),
        (.string "example", .string "1-2")]),
    (.string "name", .mapping
      [(.string "type", .string "text"), (.string "description", .string "Name"),
        (.string "example", .string "Someone")])]

theorem process_closed_form_registration :
    ∃ store processed effects,
      ofPairs registration = .ok store ∧
      store.validate = .ok () ∧
      store.process ⟨[("society", " 12 - 345"), ("mode", "core")], by decide⟩ =
        (processed, .ok ()) ∧
      List.Forall₂ store.Becomes [("society", " 12 - 345"), ("mode", "core")] effects ∧
      processed.entries = effects.map Prod.fst ++ effects.flatMap Prod.snd := by
  obtain ⟨⟨⟩, checks⟩ := exists_of_isOk
    (ofPairs registration >>= fun store =>
      store.validate >>= fun _ =>
        (store.process ⟨[("society", " 12 - 345"), ("mode", "core")], by decide⟩).2)
    (by decide +kernel)
  simp only [bind_eq_ok_iff] at checks
  obtain ⟨store, made, ⟨⟩, checked, done⟩ := checks
  obtain ⟨_, closed⟩ := process_closed_form (.ofPairs made) checked
    ⟨[("society", " 12 - 345"), ("mode", "core")], by decide⟩
  obtain ⟨⟨effects, all, entries, _⟩, _⟩ := closed _ (Prod.ext rfl done)
  exact ⟨store, _, effects, made, checked, Prod.ext rfl done, all, entries⟩

end Store

end Chronicle.Parameter
