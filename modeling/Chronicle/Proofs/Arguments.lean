import Mathlib.Data.List.Forall2
import Chronicle.Arguments
import Chronicle.Proofs.Outcome
import Chronicle.Proofs.Table

/-!
# Arguments as ordered pairs

Setting an argument changes one pair in its place or adds one at the end.
Reading written arguments keeps their order.
-/

namespace Chronicle.Arguments

/-! ## Access -/

theorem get?_eq_some_iff
    {arguments : Arguments} {key value : String} :
    arguments.get? key = some value ↔ (key, value) ∈ arguments.entries :=
  Table.lookup_eq_some_iff arguments.distinct

theorem contains_iff
    {arguments : Arguments} {key : String} :
    arguments.contains key = true ↔ key ∈ arguments.keys := by
  simp [contains, keys]

theorem mem_keys_iff
    {arguments : Arguments} {key : String} :
    key ∈ arguments.keys ↔ ∃ value, arguments.get? key = some value := by
  simp [keys, get?_eq_some_iff]

theorem contains_eq_isSome_get? (arguments : Arguments) (key : String) :
    arguments.contains key = (arguments.get? key).isSome := by
  rw [Bool.eq_iff_iff, contains_iff, mem_keys_iff, Option.isSome_iff_exists]

theorem getElem?_entries_iff
    {arguments : Arguments} {index : Nat} {key value : String} :
    arguments.entries[index]? = some (key, value) ↔
      arguments.keys[index]? = some key ∧ arguments.get? key = some value := by
  rw [keys, List.getElem?_map, Option.map_eq_some_iff]
  constructor
  · intro isPair
    exact ⟨⟨(key, value), isPair, rfl⟩, get?_eq_some_iff.mpr (List.mem_of_getElem? isPair)⟩
  · rintro ⟨⟨pair, isPair, rfl⟩, found⟩
    have ownValue : arguments.get? pair.1 = some pair.2 :=
      get?_eq_some_iff.mpr (List.mem_of_getElem? isPair)
    rw [ownValue, Option.some.injEq] at found
    rw [isPair, ← found]

/-- The order of the pairs does not matter to what is found under a key. -/
theorem get?_eq_of_perm
    {arguments others : Arguments}
    (permuted : arguments.entries.Perm others.entries)
    (key : String) :
    arguments.get? key = others.get? key :=
  Table.lookup_of_perm permuted arguments.distinct key

theorem eq_of_entries_eq
    {arguments others : Arguments}
    (same : arguments.entries = others.entries) :
    arguments = others := by
  cases arguments
  cases others
  cases same
  rfl

/-! ## Setting in turn -/

theorem get?_set (arguments : Arguments) (key other value : String) :
    (arguments.set key value).get? other =
      if key = other then some value else arguments.get? other :=
  Table.lookup_setEntry key other value arguments.entries

theorem keys_set (arguments : Arguments) (key value : String) :
    (arguments.set key value).keys =
      if key ∈ arguments.keys then arguments.keys else arguments.keys ++ [key] :=
  Table.keys_setEntry key value arguments.entries

theorem contains_set (arguments : Arguments) (key other value : String) :
    (arguments.set key value).contains other =
      (decide (key = other) || arguments.contains other) := by
  rw [Bool.eq_iff_iff, contains_iff, keys_set, Bool.or_eq_true, decide_eq_true_iff, contains_iff]
  by_cases present : key ∈ arguments.keys
  · rw [if_pos present]
    constructor
    · exact Or.inr
    · intro either
      cases either with
      | inl same => exact same ▸ present
      | inr member => exact member
  · rw [if_neg present, List.mem_append, List.mem_singleton, or_comm, eq_comm]

/-- Setting a key moves no other one. -/
theorem getElem?_keys_set_iff
    {arguments : Arguments} {key other : String}
    (different : other ≠ key) (value : String) (index : Nat) :
    (arguments.set key value).keys[index]? = some other ↔
      arguments.keys[index]? = some other := by
  rw [keys_set]
  by_cases present : key ∈ arguments.keys
  · rw [if_pos present]
  · rw [if_neg present]
    by_cases inside : index < arguments.keys.length
    · rw [List.getElem?_append_left inside]
    · have behind : arguments.keys.length ≤ index := Nat.le_of_not_lt inside
      rw [List.getElem?_append_right behind, List.getElem?_eq_none behind]
      simp [List.getElem?_singleton, Ne.symm different]

/-- Sets the pairs one after the other. -/
def setAll (arguments : Arguments) (pairs : List (String × String)) : Arguments :=
  pairs.foldl (fun arguments pair => arguments.set pair.1 pair.2) arguments

theorem setAll_cons (arguments : Arguments) (pair : String × String)
    (rest : List (String × String)) :
    arguments.setAll (pair :: rest) = (arguments.set pair.1 pair.2).setAll rest := rfl

theorem setAll_append (arguments : Arguments) (pairs further : List (String × String)) :
    arguments.setAll (pairs ++ further) = (arguments.setAll pairs).setAll further :=
  List.foldl_append

theorem get?_setAll_of_not_mem
    {key : String} {pairs : List (String × String)}
    (other : key ∉ pairs.map Prod.fst) (arguments : Arguments) :
    (arguments.setAll pairs).get? key = arguments.get? key := by
  induction pairs generalizing arguments with
  | nil => rfl
  | cons head rest inductionHypothesis =>
      rw [List.map_cons, List.mem_cons, not_or] at other
      rw [setAll_cons, inductionHypothesis other.2, get?_set, if_neg (Ne.symm other.1)]

/-- Setting the value that a key has changes nothing. -/
theorem set_of_get?
    {arguments : Arguments} {key value : String}
    (found : arguments.get? key = some value) :
    arguments.set key value = arguments := by
  apply eq_of_entries_eq
  obtain ⟨before, after, split⟩ := List.append_of_mem (get?_eq_some_iff.mp found)
  have notBefore : key ∉ before.map Prod.fst := by
    have distinct := arguments.distinct
    rw [split, List.map_append, List.nodup_append] at distinct
    intro member
    exact distinct.2.2 key member key (by simp) rfl
  change Table.setEntry key value arguments.entries = arguments.entries
  rw [split, Table.setEntry_append_cons notBefore]

/-- The pair with the value that the given pairs have for its key, if they have
one. -/
def replacedBy (pairs : List (String × String)) (pair : String × String) : String × String :=
  (pair.1, (Table.lookup pair.1 pairs).getD pair.2)

/-- Setting pairs with distinct keys replaces the values of those that are
there, in their places, and adds the others at the end. -/
theorem entries_setAll
    {pairs : List (String × String)}
    (distinct : (pairs.map Prod.fst).Nodup) (arguments : Arguments) :
    (arguments.setAll pairs).entries =
      arguments.entries.map (replacedBy pairs) ++
        pairs.filter fun pair => !arguments.contains pair.1 := by
  induction pairs generalizing arguments with
  | nil =>
      have kept : replacedBy [] = id := rfl
      simp [setAll, kept]
  | cons head rest inductionHypothesis =>
      obtain ⟨key, value⟩ := head
      rw [List.map_cons, List.nodup_cons] at distinct
      have unset : Table.lookup key rest = none := Table.lookup_eq_none_iff.mpr distinct.1
      have replacedTwice : ∀ pair : String × String,
          replacedBy rest (pair.1, if key = pair.1 then value else pair.2) =
            replacedBy ((key, value) :: rest) pair := by
        intro pair
        by_cases same : key = pair.1
        · simp [replacedBy, Table.lookup, ← same, unset]
        · simp [replacedBy, Table.lookup, same]
      have stillAbsent : (rest.filter fun pair => !(arguments.set key value).contains pair.1) =
          rest.filter fun pair => !arguments.contains pair.1 := by
        apply List.filter_congr
        intro pair member
        have different : key ≠ pair.1 := fun same =>
          distinct.1 (List.mem_map.mpr ⟨pair, member, same.symm⟩)
        rw [contains_set, decide_eq_false different, Bool.false_or]
      have entries_set : (arguments.set key value).entries = _ :=
        Table.setEntry_eq arguments.distinct value
      rw [setAll_cons, inductionHypothesis distinct.2, stillAbsent, entries_set, List.map_append,
        List.map_map]
      by_cases present : key ∈ arguments.entries.map Prod.fst
      · have contained : arguments.contains key = true := contains_iff.mpr present
        simp [present, contained, replacedTwice, Function.comp_def]
      · have free : arguments.contains key = false :=
          Bool.eq_false_iff.mpr fun contained => present (contains_iff.mp contained)
        have added : replacedBy rest (key, value) = (key, value) := by
          simp [replacedBy, unset]
        simp [present, free, added, replacedTwice, Function.comp_def]

/-- Setting pairs under new keys adds them at the end. -/
theorem entries_setAll_of_free
    {arguments : Arguments} {pairs : List (String × String)}
    (distinct : (pairs.map Prod.fst).Nodup)
    (free : ∀ pair ∈ pairs, pair.1 ∉ arguments.keys) :
    (arguments.setAll pairs).entries = arguments.entries ++ pairs := by
  have unchanged : ∀ pair ∈ arguments.entries, replacedBy pairs pair = pair := by
    intro pair member
    have unset : Table.lookup pair.1 pairs = none := by
      rw [Table.lookup_eq_none_iff]
      intro isSet
      obtain ⟨other, inPairs, same⟩ := List.mem_map.mp isSet
      exact free other inPairs (same ▸ List.mem_map_of_mem member)
    rw [replacedBy, unset, Option.getD_none]
  have absent : ∀ pair ∈ pairs, (!arguments.contains pair.1) = true := by
    intro pair member
    rw [Bool.not_eq_true', Bool.eq_false_iff, ne_eq, contains_iff]
    exact free pair member
  have kept := (List.map_congr_left unchanged).trans (List.map_id' arguments.entries)
  rw [entries_setAll distinct, kept, List.filter_eq_self.mpr absent]

/-! ## Written arguments -/

/-- The written argument states the pair: its key ends at the first equals sign,
and blanks around the key do not count. -/
inductive Reads : String → String × String → Prop
  | intro {padded : String} (value : String)
      (noSeparator : '=' ∉ padded.toList)
      (hasKey : Text.trim padded ≠ "") :
      Reads (padded ++ "=" ++ value) (Text.trim padded, value)

theorem splitPair_eq_some_iff
    {written key value : String} :
    splitPair written = some (key, value) ↔
      '=' ∉ key.toList ∧ written = key ++ "=" ++ value := by
  have parts := List.takeWhile_append_dropWhile
    (p := fun character => character != '=') (l := written.toList)
  constructor
  · intro split
    unfold splitPair at split
    dsimp only at split
    split at split
    · cases split
    · rename_i head tail isRest
      cases split
      have separator : head = '=' := by
        have stopped := List.head?_dropWhile_not (fun character => character != '=') written.toList
        simpa [isRest] using stopped
      refine ⟨?_, ?_⟩
      · rw [String.toList_ofList]
        intro member
        have notSeparator := List.all_takeWhile (p := fun character => character != '=')
          (l := written.toList)
        rw [List.all_eq_true] at notSeparator
        simpa using notSeparator '=' member
      · rw [← String.toList_inj, String.toList_append, String.toList_append]
        rw [isRest, separator] at parts
        simpa using parts.symm
  · rintro ⟨noSeparator, rfl⟩
    have inKey : ∀ character ∈ key.toList, (character != '=') = true := by
      intro character member
      rw [bne_iff_ne]
      rintro rfl
      exact noSeparator member
    have characters : (key ++ "=" ++ value).toList = key.toList ++ '=' :: value.toList := by
      simp
    rw [splitPair, characters]
    simp only [List.takeWhile_append_of_pos inKey, List.dropWhile_append_of_pos inKey]
    simp

/-- A written argument is added at the end if it states a pair with a key that
is not there. -/
theorem add_eq_ok_iff
    {arguments added : Arguments} {written : String} :
    arguments.add written = .ok added ↔
      ∃ pair, Reads written pair ∧ pair.1 ∉ arguments.keys ∧
        added.entries = arguments.entries ++ [pair] := by
  have absent_iff : ∀ {key : String}, ¬ arguments.contains key = true ↔ key ∉ arguments.keys :=
    not_congr contains_iff
  have set_eq : ∀ {key value : String}, key ∉ arguments.keys →
      (arguments.set key value).entries = arguments.entries ++ [(key, value)] :=
    fun absent => Table.setEntry_of_not_mem absent _
  constructor
  · intro accepted
    unfold add at accepted
    split at accepted
    · cases accepted
    · rename_i padded value split
      dsimp only at accepted
      split at accepted
      · cases accepted
      · rename_i hasKey
        split at accepted
        · cases accepted
        · rename_i absent
          cases accepted
          obtain ⟨noSeparator, rfl⟩ := splitPair_eq_some_iff.mp split
          exact ⟨_, .intro value noSeparator (by simpa using hasKey), absent_iff.mp absent,
            set_eq (absent_iff.mp absent)⟩
  · rintro ⟨_, ⟨value, noSeparator, hasKey⟩, absent, entries⟩
    rename_i padded
    have split : splitPair (padded ++ "=" ++ value) = some (padded, value) :=
      splitPair_eq_some_iff.mpr ⟨noSeparator, rfl⟩
    have isNew : arguments.set (Text.trim padded) value = added :=
      eq_of_entries_eq ((set_eq absent).trans entries.symm)
    rw [add, split]
    simp [hasKey, absent_iff.mpr absent, isNew]

/-- Reading more arguments adds the pairs that they state, all under new
keys. -/
theorem foldlM_add_eq_ok_iff
    {written : List String} {start arguments : Arguments} :
    written.foldlM add start = .ok arguments ↔
      ∃ stated, List.Forall₂ Reads written stated ∧
        arguments.entries = start.entries ++ stated := by
  induction written generalizing start with
  | nil =>
      constructor
      · intro same
        cases same
        exact ⟨[], .nil, by simp⟩
      · rintro ⟨_, ⟨⟩, entries⟩
        rw [List.append_nil] at entries
        rw [eq_of_entries_eq entries]
        rfl
  | cons head rest inductionHypothesis =>
      rw [List.foldlM_cons, bind_eq_ok_iff]
      constructor
      · rintro ⟨next, added, continued⟩
        obtain ⟨pair, reads, _, nextEntries⟩ := add_eq_ok_iff.mp added
        obtain ⟨stated, all, entries⟩ := inductionHypothesis.mp continued
        exact ⟨pair :: stated, .cons reads all, by simp [entries, nextEntries]⟩
      · rintro ⟨_, all, entries⟩
        obtain ⟨pair, stated, reads, further, rfl⟩ := List.forall₂_cons_left_iff.mp all
        have distinct := arguments.distinct
        rw [entries, List.map_append, List.nodup_append] at distinct
        have absent : pair.1 ∉ start.keys := fun member =>
          distinct.2.2 pair.1 member pair.1 (by simp) rfl
        have nextEntries : (start.set pair.1 pair.2).entries = start.entries ++ [pair] :=
          Table.setEntry_of_not_mem absent _
        refine ⟨start.set pair.1 pair.2,
          add_eq_ok_iff.mpr ⟨pair, reads, absent, nextEntries⟩, ?_⟩
        exact inductionHypothesis.mpr ⟨stated, further, by simp [entries, nextEntries]⟩

/-- Reading succeeds exactly with the pairs that the written arguments state, in
their order. -/
theorem parse_eq_ok_iff
    {written : List String} {arguments : Arguments} :
    parse written = .ok arguments ↔ List.Forall₂ Reads written arguments.entries := by
  rw [parse, foldlM_add_eq_ok_iff]
  constructor
  · rintro ⟨stated, all, entries⟩
    rw [entries]
    exact all
  · exact fun all => ⟨arguments.entries, all, rfl⟩

end Chronicle.Arguments
