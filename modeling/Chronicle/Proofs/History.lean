import Mathlib.Data.List.Dedup
import Mathlib.Data.List.Induction
import Chronicle.Proofs.Arguments

/-!
# Arguments by their history

Whatever has been set one after the other, a key has the value that was set last
under it, and the keys stand in the order in which they were first set.  Setting
a pair keeps this.  It neither changes nor moves the pair of another key.
-/

namespace Chronicle.Arguments

/-! ## Histories -/

/-- The value is set under the key, and none is set under it later. -/
def SetLast (history : List (String × String)) (key value : String) : Prop :=
  ∃ earlier later, history = earlier ++ (key, value) :: later ∧ key ∉ later.map Prod.fst

/-- How many pairs are set before the key is set for the first time. -/
def firstSet (history : List (String × String)) (key : String) : Nat :=
  (history.map Prod.fst).idxOf key

section

variable {history : List (String × String)}

theorem setLast_append_singleton_iff
    {key value other found : String} :
    SetLast (history ++ [(key, value)]) other found ↔
      if key = other then value = found else SetLast history other found := by
  constructor
  · rintro ⟨earlier, later, isSplit, notLater⟩
    rcases List.eq_nil_or_concat later with rfl | ⟨between, last, rfl⟩
    · obtain ⟨-, samePair⟩ := List.append_inj' isSplit rfl
      cases samePair
      rw [if_pos rfl]
    · rw [List.concat_eq_append, ← List.cons_append, ← List.append_assoc] at isSplit
      obtain ⟨isHistory, samePair⟩ := List.append_inj' isSplit rfl
      cases samePair
      rw [List.concat_eq_append, List.map_append, List.mem_append, not_or] at notLater
      have different : key ≠ other := by
        rintro rfl
        exact notLater.2 (List.mem_singleton_self key)
      rw [if_neg different]
      exact ⟨earlier, between, isHistory, notLater.1⟩
  · intro isLast
    by_cases same : key = other
    · rw [if_pos same] at isLast
      subst same isLast
      exact ⟨history, [], rfl, List.not_mem_nil⟩
    · rw [if_neg same] at isLast
      obtain ⟨earlier, later, rfl, notLater⟩ := isLast
      refine ⟨earlier, later ++ [(key, value)], by simp, ?_⟩
      rw [List.map_append, List.mem_append, not_or]
      exact ⟨notLater, by simpa using Ne.symm same⟩

/-- One of the values under a key is the last one. -/
theorem exists_setLast_iff
    {key : String} :
    (∃ value, SetLast history key value) ↔ key ∈ history.map Prod.fst := by
  constructor
  · rintro ⟨value, earlier, later, rfl, -⟩
    simp
  · intro isSet
    induction history using List.reverseRecOn with
    | nil => cases isSet
    | append_singleton history pair inductionHypothesis =>
        by_cases same : pair.1 = key
        · refine ⟨pair.2, setLast_append_singleton_iff.mpr ?_⟩
          rw [if_pos same]
        · have isSetBefore : key ∈ history.map Prod.fst := by
            simpa [Ne.symm same] using isSet
          obtain ⟨value, isLast⟩ := inductionHypothesis isSetBefore
          refine ⟨value, setLast_append_singleton_iff.mpr ?_⟩
          rwa [if_neg same]

/-- What is set later does not matter to a key that has been set. -/
theorem firstSet_append
    {key : String}
    (isSet : key ∈ history.map Prod.fst) (later : List (String × String)) :
    firstSet (history ++ later) key = firstSet history key := by
  rw [firstSet, List.map_append, List.idxOf_append_of_mem isSet, firstSet]

theorem firstSet_lt_append_singleton
    {key other : String}
    (isSet : other ∈ history.map Prod.fst)
    (isNew : key ∉ history.map Prod.fst) (value : String) :
    firstSet (history ++ [(key, value)]) other < firstSet (history ++ [(key, value)]) key := by
  have newLast : firstSet (history ++ [(key, value)]) key = (history.map Prod.fst).length := by
    rw [firstSet, List.map_append, List.idxOf_append_of_notMem isNew]
    simp
  rw [firstSet_append isSet, newLast]
  exact List.idxOf_lt_length_of_mem isSet

end

/-! ## Arguments that recall a history -/

section

variable {arguments : Arguments}

/-- The arguments hold the last value of every key, and list the keys in the
order in which they were first set. -/
structure Recalls (arguments : Arguments) (history : List (String × String)) : Prop where
  last : ∀ key value, arguments.get? key = some value ↔ SetLast history key value
  ordered : arguments.keys.Pairwise fun earlier later =>
    firstSet history earlier < firstSet history later

namespace Recalls

variable {history : List (String × String)}

theorem mem_keys_iff
    (recalls : arguments.Recalls history) {key : String} :
    key ∈ arguments.keys ↔ key ∈ history.map Prod.fst := by
  simp only [Arguments.mem_keys_iff, recalls.last, exists_setLast_iff]

theorem get?_eq_none_iff
    (recalls : arguments.Recalls history) {key : String} :
    arguments.get? key = none ↔ key ∉ history.map Prod.fst := by
  rw [← recalls.mem_keys_iff, Arguments.mem_keys_iff, ← Option.isSome_iff_exists,
    Option.not_isSome_iff_eq_none]

/-- No key stands in the list twice, since none is first set before itself. -/
theorem nodup_keys
    (recalls : arguments.Recalls history) :
    arguments.keys.Nodup := by
  refine recalls.ordered.imp ?_
  rintro earlier later before rfl
  exact Nat.lt_irrefl _ before

theorem count_keys
    (recalls : arguments.Recalls history) (key : String) :
    arguments.keys.count key = if key ∈ history.map Prod.fst then 1 else 0 := by
  rw [recalls.nodup_keys.count]
  simp only [recalls.mem_keys_iff]

theorem size_eq
    (recalls : arguments.Recalls history) :
    arguments.size = (history.map Prod.fst).dedup.length := by
  have sameKeys : arguments.keys.Perm (history.map Prod.fst).dedup := by
    rw [List.perm_ext_iff_of_nodup recalls.nodup_keys (List.nodup_dedup _)]
    intro key
    rw [List.mem_dedup, recalls.mem_keys_iff]
  rw [← sameKeys.length_eq, keys, List.length_map, size]

theorem of_empty : empty.Recalls [] := by
  refine ⟨?_, List.Pairwise.nil⟩
  intro key value
  simp [SetLast, empty, get?, Table.lookup]

/-- A key that is there keeps its place, and a new one is behind all others. -/
theorem set
    (recalls : arguments.Recalls history) (key value : String) :
    (arguments.set key value).Recalls (history ++ [(key, value)]) := by
  have keptOrder : arguments.keys.Pairwise fun earlier later =>
      firstSet (history ++ [(key, value)]) earlier <
        firstSet (history ++ [(key, value)]) later := by
    refine recalls.ordered.imp_of_mem ?_
    intro earlier later earlierMember laterMember before
    rw [firstSet_append (recalls.mem_keys_iff.mp earlierMember),
      firstSet_append (recalls.mem_keys_iff.mp laterMember)]
    exact before
  refine ⟨?_, ?_⟩
  · intro other found
    rw [get?_set, setLast_append_singleton_iff]
    by_cases same : key = other
    · rw [if_pos same, if_pos same, Option.some.injEq]
    · rw [if_neg same, if_neg same, recalls.last]
  · rw [keys_set]
    by_cases present : key ∈ arguments.keys
    · rw [if_pos present]
      exact keptOrder
    · rw [if_neg present, List.pairwise_append]
      refine ⟨keptOrder, List.pairwise_singleton _ _, ?_⟩
      intro other member added isAdded
      rw [List.mem_singleton] at isAdded
      subst isAdded
      have isNew : added ∉ history.map Prod.fst := fun isSet =>
        present (recalls.mem_keys_iff.mpr isSet)
      exact firstSet_lt_append_singleton (recalls.mem_keys_iff.mp member) isNew value

theorem setAll
    (recalls : arguments.Recalls history) (further : List (String × String)) :
    (arguments.setAll further).Recalls (history ++ further) := by
  induction further generalizing arguments history with
  | nil => rwa [List.append_nil]
  | cons pair rest inductionHypothesis =>
      have continued := inductionHypothesis (recalls.set pair.1 pair.2)
      rwa [List.append_assoc, List.singleton_append] at continued

end Recalls

end

/-- Pairs that are set one after the other leave under every key the value that
was set last, and nothing under a key that was never set.  Every key that was
set is listed once, in the order in which the keys were first set, and is paired
with its value, so there are as many pairs as different keys.  Setting one more
pair leaves the value and the position of every other key as they are. -/
theorem setting_exact (history : List (String × String)) :
    (∀ key value,
      (empty.setAll history).get? key = some value ↔ SetLast history key value) ∧
    (∀ key, (empty.setAll history).get? key = none ↔ key ∉ history.map Prod.fst) ∧
    (∀ key, (empty.setAll history).contains key =
      ((empty.setAll history).get? key).isSome) ∧
    (∀ key, (empty.setAll history).keys.count key =
      if key ∈ history.map Prod.fst then 1 else 0) ∧
    ((empty.setAll history).keys.Pairwise fun earlier later =>
      firstSet history earlier < firstSet history later) ∧
    (∀ (index : Nat) (key value : String),
      (empty.setAll history).entries[index]? = some (key, value) ↔
        (empty.setAll history).keys[index]? = some key ∧
          (empty.setAll history).get? key = some value) ∧
    (empty.setAll history).size = (history.map Prod.fst).dedup.length ∧
    ∀ key value other, other ≠ key →
      ((empty.setAll history).set key value).get? other =
          (empty.setAll history).get? other ∧
        ∀ (index : Nat), ((empty.setAll history).set key value).keys[index]? = some other ↔
          (empty.setAll history).keys[index]? = some other := by
  have recalls : (empty.setAll history).Recalls history := Recalls.of_empty.setAll history
  refine ⟨recalls.last, fun _ => recalls.get?_eq_none_iff, contains_eq_isSome_get? _,
    recalls.count_keys, recalls.ordered, fun _ _ _ => getElem?_entries_iff, recalls.size_eq, ?_⟩
  intro key value other different
  refine ⟨?_, getElem?_keys_set_iff different value⟩
  rw [get?_set, if_neg (Ne.symm different)]

/-- An event that is moved while a character is there already. -/
def movedEvent : List (String × String) :=
  [("event", "gate"), ("char", "Ada"), ("event", "tower")]

theorem setting_exact_movedEvent :
    SetLast movedEvent "event" "tower" ∧
      "player" ∉ movedEvent.map Prod.fst ∧
      (empty.setAll movedEvent).keys.count "event" = 1 ∧
      firstSet movedEvent "event" < firstSet movedEvent "char" ∧
      (empty.setAll movedEvent).size = 2 ∧
      "char" ≠ "event" ∧
      ((empty.setAll movedEvent).set "event" "vault").get? "char" = some "Ada" ∧
      ((empty.setAll movedEvent).set "event" "vault").keys[1]? = some "char" := by
  obtain ⟨last, unset, _, once, ordered, _, size, others⟩ := setting_exact movedEvent
  obtain ⟨sameValue, samePlace⟩ := others "event" "vault" "char" (by decide)
  have keys : (empty.setAll movedEvent).keys = ["event", "char"] := by decide +kernel
  rw [keys, List.pairwise_pair] at ordered
  refine ⟨(last _ _).mp (by decide +kernel), (unset _).mp (by decide +kernel), once "event",
    ordered, size.trans (by decide +kernel), by decide, ?_, (samePlace 1).mpr ?_⟩
  · rw [sameValue]
    decide +kernel
  · rw [keys]
    rfl

end Chronicle.Arguments
