import Chronicle.Table

/-!
# Tables by their answers

A table is determined by what it answers under every key.  Each operation is
therefore described by the answers of its result, and two tables are compared
key by key.
-/

namespace Chronicle.Table

universe u v

variable {α : Type u} {β : Type v}

/-! ## Lists of pairs -/

theorem mem_of_lookup
    {key : String} {value : α} {entries : List (String × α)}
    (found : lookup key entries = some value) :
    (key, value) ∈ entries := by
  induction entries with
  | nil => simp [lookup] at found
  | cons head rest inductionHypothesis =>
      rw [lookup] at found
      split at found
      · rename_i same
        cases found
        exact same ▸ List.mem_cons_self ..
      · exact List.mem_cons_of_mem head (inductionHypothesis found)

theorem lookup_of_mem
    {key : String} {value : α} {entries : List (String × α)}
    (distinct : (entries.map Prod.fst).Nodup)
    (member : (key, value) ∈ entries) :
    lookup key entries = some value := by
  induction entries with
  | nil => cases member
  | cons head rest inductionHypothesis =>
      rw [List.map_cons, List.nodup_cons] at distinct
      rw [lookup]
      rcases List.mem_cons.mp member with isHead | inRest
      · simp [← isHead]
      · have different : head.1 ≠ key := by
          intro same
          exact distinct.1 (same ▸ List.mem_map.mpr ⟨(key, value), inRest, rfl⟩)
        rw [if_neg different]
        exact inductionHypothesis distinct.2 inRest

theorem lookup_eq_some_iff
    {key : String} {value : α} {entries : List (String × α)}
    (distinct : (entries.map Prod.fst).Nodup) :
    lookup key entries = some value ↔ (key, value) ∈ entries :=
  ⟨mem_of_lookup, lookup_of_mem distinct⟩

theorem lookup_eq_none_iff
    {key : String} {entries : List (String × α)} :
    lookup key entries = none ↔ key ∉ entries.map Prod.fst := by
  induction entries with
  | nil => simp [lookup]
  | cons head rest inductionHypothesis =>
      by_cases same : head.1 = key
      · simp [lookup, same]
      · simp [lookup, same, inductionHypothesis, Ne.symm same]

/-- The order of pairs with distinct keys does not matter to what is found. -/
theorem lookup_of_perm
    {entries others : List (String × α)}
    (permuted : entries.Perm others)
    (distinct : (entries.map Prod.fst).Nodup)
    (key : String) :
    lookup key entries = lookup key others := by
  have othersDistinct : (others.map Prod.fst).Nodup :=
    (permuted.map Prod.fst).nodup_iff.mp distinct
  cases found : lookup key entries with
  | some value =>
      have member : (key, value) ∈ others := permuted.mem_iff.mp (mem_of_lookup found)
      exact (lookup_of_mem othersDistinct member).symm
  | none =>
      rw [lookup_eq_none_iff, (permuted.map Prod.fst).mem_iff] at found
      exact (lookup_eq_none_iff.mpr found).symm

theorem lookup_append (key : String) (entries further : List (String × α)) :
    lookup key (entries ++ further) = (lookup key entries).or (lookup key further) := by
  induction entries with
  | nil => rfl
  | cons head rest inductionHypothesis =>
      rw [List.cons_append, lookup, lookup, inductionHypothesis]
      by_cases same : head.1 = key
      · rw [if_pos same, if_pos same, Option.some_or]
      · rw [if_neg same, if_neg same]

/-- Insertion into any list, ordered or not, changes one answer only. -/
theorem lookup_insertEntry
    (key other : String) (value : α) (entries : List (String × α)) :
    lookup other (insertEntry key value entries) =
      if key = other then some value else lookup other entries := by
  induction entries with
  | nil => simp [insertEntry, lookup]
  | cons head rest inductionHypothesis =>
      rw [insertEntry]
      split
      · simp [lookup]
      · split
        · rename_i same
          by_cases asked : key = other
          · simp [lookup, asked]
          · simp [lookup, asked, ← same]
        · rename_i different
          rw [lookup, inductionHypothesis, lookup]
          by_cases asked : key = other
          · simp [asked, asked ▸ Ne.symm different]
          · simp [asked]

theorem setEntry_of_not_mem
    {key : String} {entries : List (String × α)}
    (absent : key ∉ entries.map Prod.fst)
    (value : α) :
    setEntry key value entries = entries ++ [(key, value)] := by
  induction entries with
  | nil => rfl
  | cons head rest inductionHypothesis =>
      rw [List.map_cons, List.mem_cons, not_or] at absent
      rw [setEntry, if_neg (Ne.symm absent.1), inductionHypothesis absent.2]
      rfl

theorem setEntry_append_cons
    {key : String} {before : List (String × α)}
    (absent : key ∉ before.map Prod.fst)
    (value old : α) (after : List (String × α)) :
    setEntry key value (before ++ (key, old) :: after) = before ++ (key, value) :: after := by
  induction before with
  | nil => simp [setEntry]
  | cons head rest inductionHypothesis =>
      rw [List.map_cons, List.mem_cons, not_or] at absent
      rw [List.cons_append, setEntry, if_neg (Ne.symm absent.1), inductionHypothesis absent.2]
      rfl

theorem lookup_setEntry (key other : String) (value : α) (entries : List (String × α)) :
    lookup other (setEntry key value entries) =
      if key = other then some value else lookup other entries := by
  induction entries with
  | nil => rfl
  | cons head rest inductionHypothesis =>
      rw [setEntry]
      by_cases same : head.1 = key
      · by_cases asked : key = other
        · simp [lookup, same, asked]
        · simp [lookup, same, asked]
      · rw [if_neg same, lookup, inductionHypothesis, lookup]
        by_cases asked : key = other
        · simp [asked, asked ▸ same]
        · simp [asked]

theorem mem_setEntry_iff
    {key other : String} {value found : α} {entries : List (String × α)}
    (distinct : (entries.map Prod.fst).Nodup) :
    (other, found) ∈ setEntry key value entries ↔
      if key = other then found = value else (other, found) ∈ entries := by
  rw [← lookup_eq_some_iff (nodup_keys_setEntry distinct), lookup_setEntry]
  by_cases same : key = other
  · rw [if_pos same, if_pos same, Option.some.injEq, eq_comm]
  · rw [if_neg same, if_neg same, lookup_eq_some_iff distinct]

/-- Setting changes the value of one pair, or adds one at the end. -/
theorem setEntry_eq
    {key : String} {entries : List (String × α)}
    (distinct : (entries.map Prod.fst).Nodup)
    (value : α) :
    setEntry key value entries =
      (entries.map fun pair => (pair.1, if key = pair.1 then value else pair.2)) ++
        if key ∈ entries.map Prod.fst then [] else [(key, value)] := by
  induction entries with
  | nil => rfl
  | cons head rest inductionHypothesis =>
      rw [List.map_cons, List.nodup_cons] at distinct
      by_cases same : head.1 = key
      · subst same
        have unchanged : ∀ pair ∈ rest,
            (pair.1, if head.1 = pair.1 then value else pair.2) = pair := by
          intro pair member
          have different : head.1 ≠ pair.1 := fun same =>
            distinct.1 (List.mem_map.mpr ⟨pair, member, same.symm⟩)
          rw [if_neg different]
        have kept := List.map_congr_left unchanged
        simp [setEntry, kept]
      · have different : key ≠ head.1 := Ne.symm same
        have sameMember : key ∈ (head :: rest).map Prod.fst ↔ key ∈ rest.map Prod.fst := by
          simp [different]
        rw [setEntry, if_neg same, inductionHypothesis distinct.2, List.map_cons, if_neg different]
        simp only [sameMember, List.cons_append]

/-! ## Answers -/

theorem keys_pairwise (table : Table α) :
    table.keys.Pairwise (· < ·) :=
  List.pairwise_map.mpr table.ordered

theorem keys_nodup (table : Table α) : table.keys.Nodup := by
  apply table.keys_pairwise.imp
  intro earlier later less same
  exact String.lt_irrefl later (same ▸ less)

theorem mem_entries_iff
    {table : Table α} {key : String} {value : α} :
    (key, value) ∈ table.entries ↔ table.get? key = some value :=
  (lookup_eq_some_iff table.keys_nodup).symm

theorem mem_keys_iff
    {table : Table α} {key : String} :
    key ∈ table.keys ↔ ∃ value, table.get? key = some value := by
  rw [← Option.ne_none_iff_exists', Ne, get?, lookup_eq_none_iff, keys, Decidable.not_not]

theorem contains_iff
    {table : Table α} {key : String} :
    table.contains key = true ↔ ∃ value, table.get? key = some value := by
  rw [contains, Option.isSome_iff_exists]

theorem contains_eq_false_iff
    {table : Table α} {key : String} :
    table.contains key = false ↔ table.get? key = none := by
  rw [contains, Option.isSome_eq_false_iff, Option.isNone_iff_eq_none]

theorem mem_keys_iff_contains
    {table : Table α} {key : String} :
    key ∈ table.keys ↔ table.contains key = true := by
  rw [mem_keys_iff, contains_iff]

/-- There is one increasing order of the same pairs. -/
theorem eq_of_perm
    {left right : Table α}
    (permuted : left.entries.Perm right.entries) :
    left = right := by
  have equalEntries : left.entries = right.entries := by
    refine permuted.eq_of_pairwise ?_ left.ordered right.ordered
    intro earlier later _ _ less greater
    exact absurd greater (String.lt_asymm less)
  cases left
  cases right
  cases equalEntries
  rfl

/-- Two tables with the same answers are equal, as both list the same pairs. -/
theorem eq_of_get?_eq
    {left right : Table α}
    (same : ∀ key, left.get? key = right.get? key) :
    left = right := by
  have distinct : ∀ table : Table α, table.entries.Nodup := by
    intro table
    apply table.ordered.imp
    intro earlier later less same
    exact String.lt_irrefl later.1 (same ▸ less)
  apply eq_of_perm
  rw [List.perm_ext_iff_of_nodup (distinct left) (distinct right)]
  intro entry
  rw [show entry = (entry.1, entry.2) from rfl, mem_entries_iff, mem_entries_iff, same]

/-- Tables that hold the same keys list them alike. -/
theorem keys_eq_of_contains_eq
    {left : Table α} {right : Table β}
    (same : ∀ key, left.contains key = right.contains key) :
    left.keys = right.keys := by
  have permuted : left.keys.Perm right.keys := by
    rw [List.perm_ext_iff_of_nodup left.keys_nodup right.keys_nodup]
    intro key
    rw [mem_keys_iff_contains, mem_keys_iff_contains, same]
  refine permuted.eq_of_pairwise ?_ left.keys_pairwise right.keys_pairwise
  intro earlier later _ _ less greater
  exact absurd greater (String.lt_asymm less)

/-! ## Operations -/

theorem get?_insert (table : Table α) (key other : String) (value : α) :
    (table.insert key value).get? other =
      if key = other then some value else table.get? other :=
  lookup_insertEntry key other value table.entries

@[simp]
theorem get?_insert_self (table : Table α) (key : String) (value : α) :
    (table.insert key value).get? key = some value := by
  simp [get?_insert]

theorem get?_insert_of_ne
    {key other : String}
    (different : key ≠ other) (table : Table α) (value : α) :
    (table.insert key value).get? other = table.get? other := by
  simp [get?_insert, different]

theorem overwrite_cons (table : Table α) (entry : String × α) (rest : List (String × α)) :
    table.overwrite (entry :: rest) = (table.insert entry.1 entry.2).overwrite rest := rfl

/-- Writing pairs under distinct keys one after the other answers with the
pairs first. -/
theorem get?_overwrite
    (entries : List (String × α)) (table : Table α) (key : String)
    (distinct : (entries.map Prod.fst).Nodup) :
    (table.overwrite entries).get? key = (lookup key entries).or (table.get? key) := by
  induction entries generalizing table with
  | nil => rfl
  | cons head rest inductionHypothesis =>
      rw [List.map_cons, List.nodup_cons] at distinct
      rw [overwrite_cons, inductionHypothesis _ distinct.2, get?_insert, lookup]
      by_cases same : head.1 = key
      · have absent : lookup key rest = none :=
          lookup_eq_none_iff.mpr (same ▸ distinct.1)
        simp [same, absent]
      · simp [same]

/-- Pairs with distinct keys may be written in any order. -/
theorem overwrite_of_perm
    {entries others : List (String × α)}
    (permuted : entries.Perm others)
    (distinct : (entries.map Prod.fst).Nodup)
    (table : Table α) :
    table.overwrite entries = table.overwrite others := by
  have othersDistinct : (others.map Prod.fst).Nodup :=
    (permuted.map Prod.fst).nodup_iff.mp distinct
  apply eq_of_get?_eq
  intro key
  rw [get?_overwrite _ _ _ distinct, get?_overwrite _ _ _ othersDistinct,
    lookup_of_perm permuted distinct]

theorem perm_insertEntry
    {key : String} {entries : List (String × α)}
    (isNew : key ∉ entries.map Prod.fst) (value : α) :
    (insertEntry key value entries).Perm ((key, value) :: entries) := by
  induction entries with
  | nil => exact List.Perm.refl _
  | cons head rest inductionHypothesis =>
      rw [List.map_cons, List.mem_cons, not_or] at isNew
      rw [insertEntry]
      split
      · exact List.Perm.refl _
      · rw [if_neg isNew.1]
        exact ((inductionHypothesis isNew.2).cons head).trans (List.Perm.swap ..)

/-- Pairs under distinct new keys are all kept, and nothing is lost for them. -/
theorem perm_overwrite
    {entries : List (String × α)} {table : Table α}
    (distinct : (entries.map Prod.fst).Nodup)
    (isNew : ∀ key ∈ table.keys, key ∉ entries.map Prod.fst) :
    (table.overwrite entries).entries.Perm (entries ++ table.entries) := by
  induction entries generalizing table with
  | nil => exact List.Perm.refl _
  | cons head rest inductionHypothesis =>
      rw [List.map_cons, List.nodup_cons] at distinct
      have headNew : head.1 ∉ table.keys := fun isKey =>
        isNew head.1 isKey (List.mem_cons_self ..)
      have inserted : (table.insert head.1 head.2).entries.Perm (head :: table.entries) :=
        perm_insertEntry headNew head.2
      have restNew : ∀ key ∈ (table.insert head.1 head.2).keys, key ∉ rest.map Prod.fst := by
        intro key isKey
        rcases List.mem_cons.mp ((inserted.map Prod.fst).mem_iff.mp isKey) with same | old
        · exact same ▸ distinct.1
        · exact fun inRest => isNew key old (List.mem_cons_of_mem _ inRest)
      rw [overwrite_cons]
      exact (inductionHypothesis distinct.2 restNew).trans
        ((inserted.append_left rest).trans List.perm_middle)

@[simp]
theorem get?_union (table other : Table α) (key : String) :
    (table.union other).get? key = (table.get? key).or (other.get? key) :=
  get?_overwrite table.entries other key table.keys_nodup

/-- Without common keys the union holds the pairs of both tables. -/
theorem get?_union_eq_some_iff
    {table other : Table α}
    (apart : ∀ key ∈ table.keys, key ∉ other.keys)
    {key : String} {value : α} :
    (table.union other).get? key = some value ↔
      table.get? key = some value ∨ other.get? key = some value := by
  rw [get?_union, Option.or_eq_some_iff]
  constructor
  · rintro (own | ⟨_, inherited⟩)
    · exact Or.inl own
    · exact Or.inr inherited
  · rintro (own | inherited)
    · exact Or.inl own
    · have absent : table.get? key = none := by
        apply lookup_eq_none_iff.mpr
        intro isKey
        exact apart key isKey (mem_keys_iff.mpr ⟨value, inherited⟩)
      exact Or.inr ⟨absent, inherited⟩

theorem union_assoc (table other third : Table α) :
    (table.union other).union third = table.union (other.union third) := by
  apply eq_of_get?_eq
  intro key
  simp only [get?_union, Option.or_assoc]

/-- Without common keys it does not matter which table would win. -/
theorem union_comm
    {table other : Table α}
    (apart : ∀ key ∈ table.keys, key ∉ other.keys) :
    table.union other = other.union table := by
  apply eq_of_get?_eq
  intro key
  rw [get?_union, get?_union]
  cases own : table.get? key with
  | none => simp
  | some value =>
      have isKey : key ∈ table.keys := mem_keys_iff.mpr ⟨value, own⟩
      have absent : other.get? key = none := lookup_eq_none_iff.mpr (apart key isKey)
      simp [absent]

theorem mem_keys_union
    {table other : Table α} {key : String} :
    key ∈ (table.union other).keys ↔ key ∈ table.keys ∨ key ∈ other.keys := by
  simp only [mem_keys_iff, get?_union, ← Option.isSome_iff_exists, Option.isSome_or,
    Bool.or_eq_true]

theorem apart_union_left_iff
    {table other third : Table α} :
    (∀ key ∈ (table.union other).keys, key ∉ third.keys) ↔
      (∀ key ∈ table.keys, key ∉ third.keys) ∧ ∀ key ∈ other.keys, key ∉ third.keys := by
  simp only [mem_keys_union, or_imp, forall_and]

theorem apart_union_right_iff
    {table other third : Table α} :
    (∀ key ∈ table.keys, key ∉ (other.union third).keys) ↔
      (∀ key ∈ table.keys, key ∉ other.keys) ∧ ∀ key ∈ table.keys, key ∉ third.keys := by
  simp only [mem_keys_union, not_or, imp_and, forall_and]

@[simp]
theorem get?_mapValues (transform : α → β) (table : Table α) (key : String) :
    (table.mapValues transform).get? key = (table.get? key).map transform := by
  obtain ⟨entries, ordered⟩ := table
  change lookup key (entries.map fun entry => (entry.1, transform entry.2)) =
    (lookup key entries).map transform
  clear ordered
  induction entries with
  | nil => rfl
  | cons head rest inductionHypothesis =>
      by_cases same : head.1 = key
      · simp [lookup, same]
      · simp [lookup, same, inductionHypothesis]

theorem keys_mapValues (transform : α → β) (table : Table α) :
    (table.mapValues transform).keys = table.keys :=
  List.map_map

/-! ## Properties of all pairs -/

def Forall (property : String → α → Prop) (table : Table α) : Prop :=
  ∀ key value, table.get? key = some value → property key value

theorem forall_empty (property : String → α → Prop) :
    (empty : Table α).Forall property := by
  intro key value found
  cases found

theorem Forall.insert
    {property : String → α → Prop} {table : Table α}
    (holds : table.Forall property)
    {key : String} {value : α}
    (isNew : property key value) :
    (table.insert key value).Forall property := by
  intro other found
  rw [get?_insert]
  split
  · rename_i same
    rintro ⟨⟩
    exact same ▸ isNew
  · exact holds other found

theorem Forall.union
    {property : String → α → Prop} {table other : Table α}
    (holds : table.Forall property)
    (otherHolds : other.Forall property) :
    (table.union other).Forall property := by
  intro key value found
  rw [get?_union, Option.or_eq_some_iff] at found
  rcases found with own | ⟨_, further⟩
  · exact holds key value own
  · exact otherHolds key value further

theorem Forall.of_mem
    {property : String → α → Prop} {table : Table α}
    (holds : table.Forall property)
    {item : String × α}
    (member : item ∈ table.entries) :
    property item.1 item.2 :=
  holds item.1 item.2 (mem_entries_iff.mp member)

/-! ## The first key with a property -/

theorem find?_contains_eq_none_iff
    {table : Table α} {keys : List String} :
    keys.find? table.contains = none ↔ ∀ key ∈ table.keys, key ∉ keys := by
  rw [List.find?_eq_none]
  constructor
  · intro absent key own listed
    exact absent key listed (mem_keys_iff_contains.mp own)
  · intro apart key listed own
    exact apart key (mem_keys_iff_contains.mpr own) listed

/-- A search through an increasing list finds the least item with the
property. -/
theorem find?_eq_some_iff_of_increasing
    {predicate : String → Bool} {found : String} {items : List String}
    (increasing : items.Pairwise (· < ·)) :
    items.find? predicate = some found ↔
      found ∈ items ∧ predicate found = true ∧
        ∀ other ∈ items, predicate other = true → found ≤ other := by
  induction items with
  | nil => simp
  | cons head rest inductionHypothesis =>
      obtain ⟨headLess, restIncreasing⟩ := List.pairwise_cons.mp increasing
      have headLe : ∀ other ∈ rest, head ≤ other := fun other member =>
        String.lt_asymm (headLess other member)
      by_cases holds : predicate head = true
      · rw [List.find?_cons_of_pos holds, Option.some.injEq]
        constructor
        · rintro rfl
          refine ⟨List.mem_cons_self .., holds, ?_⟩
          intro other member _
          rcases List.mem_cons.mp member with same | inRest
          · exact same ▸ String.le_refl head
          · exact headLe other inRest
        · rintro ⟨member, _, least⟩
          rcases List.mem_cons.mp member with same | inRest
          · exact same.symm
          · exact String.le_antisymm (headLe found inRest)
              (least head (List.mem_cons_self ..) holds)
      · rw [List.find?_cons_of_neg holds]
        apply Iff.trans (inductionHypothesis restIncreasing)
        constructor
        · rintro ⟨member, foundHolds, least⟩
          refine ⟨List.mem_cons_of_mem head member, foundHolds, ?_⟩
          intro other otherMember otherHolds
          rcases List.mem_cons.mp otherMember with same | inRest
          · exact absurd (same ▸ otherHolds) holds
          · exact least other inRest otherHolds
        · rintro ⟨member, foundHolds, least⟩
          refine ⟨?_, foundHolds, fun other inRest => least other (List.mem_cons_of_mem head inRest)⟩
          rcases List.mem_cons.mp member with same | inRest
          · exact absurd (same ▸ foundHolds) holds
          · exact inRest

end Chronicle.Table
