import Chronicle.Parameter.Store
import Chronicle.Proofs.Outcome
import Chronicle.Proofs.Table

/-!
# Parameter stores built by their operations

Every store that the operations can build is keyed: each definition has the ID
under which it stands.  On keyed stores inheriting is the union of two tables
and fails exactly if the stores share an ID.
-/

namespace Chronicle.Parameter.Store

open Yaml (Value)

/-! ## Building -/

/-- The stores that come from mappings, accepted additions and inheritance. -/
inductive Reachable : Store → Prop
  | empty : Reachable Store.empty
  | ofPairs {pairs : List (Value × Value)} {store : Store}
      (made : Store.ofPairs pairs = .ok store) :
      Reachable store
  | add {store added : Store} {id : String} {definition : Definition}
      (reachable : Reachable store)
      (made : store.add id definition = .ok added) :
      Reachable added
  | inherit {store other merged : Store}
      (reachable : Reachable store)
      (otherReachable : Reachable other)
      (made : store.inherit other = .ok merged) :
      Reachable merged

/-- Every definition has the ID under which it stands. -/
def Keyed (store : Store) : Prop :=
  ∀ id definition, store.get? id = some definition → definition.id = id

/-! ## Additions -/

theorem add_eq_ok_iff
    {store added : Store} {id : String} {definition : Definition} :
    store.add id definition = .ok added ↔
      (definition.id = "" ∨ definition.id = id) ∧ store.contains id = false ∧
        added = ⟨store.table.insert id { definition with id := id }⟩ := by
  unfold add
  by_cases conflicting : definition.id = "" ∨ definition.id = id
  · have accepted : (!definition.id.isEmpty && definition.id != id) = false := by
      rcases conflicting with isEmpty | same
      · simp [isEmpty]
      · simp [same]
    rw [accepted]
    cases present : store.contains id with
    | true => simp
    | false =>
        simp only [Bool.false_eq_true, if_false, Except.ok.injEq, conflicting, true_and]
        exact eq_comm
  · have refused : (!definition.id.isEmpty && definition.id != id) = true := by
      simpa [not_or] using conflicting
    simp [refused, conflicting]

theorem Keyed.insert
    {store : Store} (keyed : store.Keyed)
    {id : String} {definition : Definition} (own : definition.id = id) :
    Keyed ⟨store.table.insert id definition⟩ := by
  intro other found
  rw [get?, Table.get?_insert]
  split
  · rename_i same
    intro isNew
    cases isNew
    exact own.trans same
  · exact keyed other found

theorem Keyed.add
    {store added : Store} (keyed : store.Keyed)
    {id : String} {definition : Definition}
    (made : store.add id definition = .ok added) :
    added.Keyed := by
  obtain ⟨_, _, rfl⟩ := add_eq_ok_iff.mp made
  exact keyed.insert rfl

theorem keyed_empty : Keyed Store.empty := by
  intro id definition found
  cases found

theorem Keyed.addPairs
    {pairs : List (Value × Value)} {labels : List (String × String)} {store made : Store}
    (keyed : store.Keyed)
    (added : Store.addPairs pairs labels store = .ok made) :
    made.Keyed := by
  induction pairs generalizing labels store with
  | nil =>
      rw [Store.addPairs] at added
      cases added
      exact keyed
  | cons pair rest inductionHypothesis =>
      obtain ⟨key, value⟩ := pair
      rw [Store.addPairs, bind_eq_ok_iff] at added
      obtain ⟨id, _, added⟩ := added
      split at added
      · cases added
      · rw [bind_eq_ok_iff] at added
        obtain ⟨definition, _, added⟩ := added
        rw [bind_eq_ok_iff] at added
        obtain ⟨grown, grownBy, added⟩ := added
        exact inductionHypothesis (keyed.add (mapError_eq_ok_iff.mp grownBy)) added

/-! ## Inheritance -/

theorem firstShared_eq_none_iff
    {store other : Store} :
    store.firstShared other = none ↔ ∀ id ∈ store.keys, id ∉ other.keys :=
  Table.find?_contains_eq_none_iff

/-- Definitions under their own IDs, none of them taken, are added one by one
as they are. -/
theorem addEntries_eq_ok
    {entries : List (String × Definition)} {store : Store}
    (own : ∀ entry ∈ entries, entry.2.id = entry.1)
    (distinct : (entries.map Prod.fst).Nodup)
    (isNew : ∀ entry ∈ entries, store.contains entry.1 = false) :
    addEntries entries store =
      .ok ⟨store.table.overwrite entries⟩ := by
  induction entries generalizing store with
  | nil => rfl
  | cons head rest inductionHypothesis =>
      obtain ⟨id, definition⟩ := head
      have headOwn : definition.id = id := own (id, definition) (List.mem_cons_self ..)
      rw [List.map_cons, List.nodup_cons] at distinct
      have added : store.add id definition = .ok ⟨store.table.insert id definition⟩ := by
        rw [add_eq_ok_iff]
        refine ⟨Or.inr headOwn, isNew (id, definition) (List.mem_cons_self ..), ?_⟩
        rw [← headOwn]
      rw [addEntries, added, Table.overwrite_cons]
      apply inductionHypothesis
      · exact fun entry inRest => own entry (List.mem_cons_of_mem _ inRest)
      · exact distinct.2
      · intro entry inRest
        have different : id ≠ entry.1 := by
          intro same
          exact distinct.1 (List.mem_map.mpr ⟨entry, inRest, same.symm⟩)
        have absent := isNew entry (List.mem_cons_of_mem _ inRest)
        rw [contains, Table.contains_eq_false_iff] at absent ⊢
        rw [Table.get?_insert_of_ne different, absent]

/-- Without a shared ID all definitions of both stores are in the merged one. -/
theorem inherit_eq_ok
    {store other : Store}
    (otherKeyed : other.Keyed)
    (disjoint : store.firstShared other = none) :
    store.inherit other = .ok ⟨store.table.union other.table⟩ := by
  have absent : ∀ id definition, other.table.get? id = some definition →
      store.table.get? id = none := by
    intro id definition found
    refine Table.lookup_eq_none_iff.mpr fun own => ?_
    have inherited : id ∈ other.keys := Table.mem_keys_iff.mpr ⟨definition, found⟩
    exact firstShared_eq_none_iff.mp disjoint id own inherited
  have own : ∀ entry ∈ other.table.entries, entry.2.id = entry.1 := fun entry member =>
    otherKeyed entry.1 entry.2 (Table.mem_entries_iff.mp member)
  have isNew : ∀ entry ∈ other.table.entries, store.contains entry.1 = false := by
    intro entry member
    exact Table.contains_eq_false_iff.mpr
      (absent entry.1 entry.2 (Table.mem_entries_iff.mp member))
  have merged :
      store.table.overwrite other.table.entries = store.table.union other.table := by
    apply Table.eq_of_get?_eq
    intro id
    rw [Table.get?_overwrite _ _ _ other.table.keys_nodup, Table.get?_union]
    change (other.table.get? id).or _ = _
    cases found : other.table.get? id with
    | none => simp
    | some definition => simp [absent id definition found]
  rw [inherit, disjoint]
  rw [addEntries_eq_ok own other.table.keys_nodup isNew, merged]
  rfl

theorem inherit_eq_ok_iff
    {store other merged : Store}
    (otherKeyed : other.Keyed) :
    store.inherit other = .ok merged ↔
      store.firstShared other = none ∧ merged = ⟨store.table.union other.table⟩ := by
  cases disjoint : store.firstShared other with
  | none => simp [inherit_eq_ok otherKeyed disjoint, eq_comm]
  | some id => simp [inherit, disjoint]

theorem Keyed.union
    {store other : Store}
    (keyed : store.Keyed)
    (otherKeyed : other.Keyed) :
    Keyed ⟨store.table.union other.table⟩ := by
  intro id definition found
  rw [get?, Table.get?_union, Option.or_eq_some_iff] at found
  rcases found with own | ⟨_, inherited⟩
  · exact keyed id definition own
  · exact otherKeyed id definition inherited

theorem Reachable.keyed
    {store : Store}
    (reachable : Reachable store) :
    store.Keyed := by
  induction reachable with
  | empty => exact keyed_empty
  | ofPairs made => exact keyed_empty.addPairs made
  | add _ made keyed => exact keyed.add made
  | inherit _ _ made keyed otherKeyed =>
      obtain ⟨_, rfl⟩ := (inherit_eq_ok_iff otherKeyed).mp made
      exact keyed.union otherKeyed

/-! ## Checks -/

/-- What a checked store promises about each of its definitions. -/
theorem validate_eq_ok_iff
    {store : Store} :
    store.validate = .ok () ↔
      ∀ id definition, store.get? id = some definition →
        definition.problem? = none ∧
          ∀ key ∈ definition.derivedKeys, store.contains key = false := by
  have entryChecked : ∀ definition : Definition,
      store.validateEntry definition = .ok () ↔
        definition.problem? = none ∧
          ∀ key ∈ definition.derivedKeys, store.contains key = false := by
    intro definition
    rw [validateEntry, Definition.validate, bind_eq_ok_iff]
    cases definition.problem? with
    | some cause => simp
    | none =>
        cases clash : definition.derivedKeys.find? store.contains with
        | none => simpa [pure, Except.pure] using clash
        | some key =>
            have member := List.mem_of_find?_eq_some clash
            have taken := List.find?_some clash
            simp only [reduceCtorEq, and_false, exists_const, true_and, false_iff]
            intro absent
            rw [absent key member] at taken
            cases taken
  rw [validate, forM_eq_ok_iff]
  constructor
  · intro checked id definition found
    exact (entryChecked definition).mp
      (within_eq_ok_iff.mp (checked (id, definition) (Table.mem_entries_iff.mpr found)))
  · intro promised entry member
    exact within_eq_ok_iff.mpr
      ((entryChecked entry.2).mpr (promised entry.1 entry.2 (Table.mem_entries_iff.mp member)))

end Chronicle.Parameter.Store
