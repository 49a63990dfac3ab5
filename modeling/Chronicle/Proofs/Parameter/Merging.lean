import Chronicle.Proofs.InPlace
import Chronicle.Proofs.Parameter.Conversion

/-!
# Merging parameter stores

Inheriting is a partial sum of stores: it is defined exactly for stores without
a common ID, does not depend on order or grouping, and has the empty store as
its neutral element.  As every definition has the ID under which it stands, none
of the additions on the way is refused, in whatever order they are made.
-/

namespace Chronicle.Parameter.Store

open Yaml (Value)

/-! ## Stores that are apart -/

/-- No ID of both stores. -/
def Apart (store other : Store) : Prop :=
  ∀ id ∈ store.keys, id ∉ other.keys

/-- The definitions of both stores. -/
def unite (store other : Store) : Store :=
  ⟨store.table.union other.table⟩

section

variable {store other third merged : Store}

theorem Apart.symm
    (apart : store.Apart other) :
    other.Apart store := by
  intro id inherited own
  exact apart id own inherited

theorem empty_apart (store : Store) : empty.Apart store := by
  intro id member
  cases member

theorem apart_unite_left_iff :
    (store.unite other).Apart third ↔ store.Apart third ∧ other.Apart third :=
  Table.apart_union_left_iff

theorem apart_unite_right_iff :
    store.Apart (other.unite third) ↔ store.Apart other ∧ store.Apart third :=
  Table.apart_union_right_iff

theorem empty_unite (store : Store) : empty.unite store = store := rfl

theorem unite_comm
    (apart : store.Apart other) :
    store.unite other = other.unite store :=
  congrArg Store.mk (Table.union_comm apart)

theorem unite_assoc (store other third : Store) :
    (store.unite other).unite third = store.unite (other.unite third) :=
  congrArg Store.mk (Table.union_assoc store.table other.table third.table)

theorem inherit_eq_ok_iff_apart
    (otherKeyed : other.Keyed) :
    store.inherit other = .ok merged ↔ store.Apart other ∧ merged = store.unite other := by
  rw [inherit_eq_ok_iff otherKeyed, firstShared_eq_none_iff]
  rfl

/-! ## Order and grouping -/

theorem inherit_comm
    (keyed : store.Keyed)
    (otherKeyed : other.Keyed) :
    store.inherit other = .ok merged ↔ other.inherit store = .ok merged := by
  rw [inherit_eq_ok_iff_apart otherKeyed, inherit_eq_ok_iff_apart keyed]
  constructor
  · intro ⟨apart, isMerged⟩
    exact ⟨apart.symm, isMerged.trans (unite_comm apart)⟩
  · intro ⟨apart, isMerged⟩
    exact ⟨apart.symm, isMerged.trans (unite_comm apart)⟩

theorem inherit_grouping
    (otherKeyed : other.Keyed)
    (thirdKeyed : third.Keyed) :
    (store.inherit other >>= fun joined => joined.inherit third) = .ok merged ↔
      (other.inherit third >>= fun joined => store.inherit joined) = .ok merged := by
  have joinedKeyed : (other.unite third).Keyed := otherKeyed.union thirdKeyed
  rw [bind_eq_ok_iff, bind_eq_ok_iff]
  constructor
  · intro ⟨joined, isJoined, done⟩
    obtain ⟨apart, rfl⟩ := (inherit_eq_ok_iff_apart otherKeyed).mp isJoined
    obtain ⟨joinedApart, rfl⟩ := (inherit_eq_ok_iff_apart thirdKeyed).mp done
    obtain ⟨outer, inner⟩ := apart_unite_left_iff.mp joinedApart
    refine ⟨other.unite third, (inherit_eq_ok_iff_apart thirdKeyed).mpr ⟨inner, rfl⟩, ?_⟩
    have fromJoined : store.Apart (other.unite third) := apart_unite_right_iff.mpr ⟨apart, outer⟩
    exact (inherit_eq_ok_iff_apart joinedKeyed).mpr ⟨fromJoined, unite_assoc ..⟩
  · intro ⟨joined, isJoined, done⟩
    obtain ⟨inner, rfl⟩ := (inherit_eq_ok_iff_apart thirdKeyed).mp isJoined
    obtain ⟨fromJoined, rfl⟩ := (inherit_eq_ok_iff_apart joinedKeyed).mp done
    obtain ⟨apart, outer⟩ := apart_unite_right_iff.mp fromJoined
    refine ⟨store.unite other, (inherit_eq_ok_iff_apart otherKeyed).mpr ⟨apart, rfl⟩, ?_⟩
    have joinedApart : (store.unite other).Apart third := apart_unite_left_iff.mpr ⟨outer, inner⟩
    exact (inherit_eq_ok_iff_apart thirdKeyed).mpr ⟨joinedApart, (unite_assoc ..).symm⟩

/-! ## Copying in any order -/

/-- Inherits by copying the definitions of the other store in the given
order. -/
def inheritAlong (order : List (String × Definition)) (store other : Store) :
    Store × Except Fault Unit :=
  match store.firstShared other with
  | some id => (store, .error (.duplicate .parameter id "inheriting store" "inherited store"))
  | none =>
      let (grown, outcome) := addInPlace order store
      (grown, outcome.mapError Fault.refused)

/-- The least ID of both stores. -/
structure IsLeastShared (store other : Store) (id : String) : Prop where
  own : id ∈ store.keys
  inherited : id ∈ other.keys
  least : ∀ shared ∈ store.keys, shared ∈ other.keys → id ≤ shared

theorem isLeastShared_of_firstShared
    {id : String}
    (shared : store.firstShared other = some id) :
    store.IsLeastShared other id := by
  obtain ⟨inherited, own, least⟩ :=
    (Table.find?_eq_some_iff_of_increasing other.table.keys_pairwise).mp shared
  refine ⟨Table.mem_keys_iff_contains.mpr own, inherited, ?_⟩
  intro another anotherOwn anotherInherited
  exact least another anotherInherited (Table.mem_keys_iff_contains.mp anotherOwn)

/-- The definitions of a store that is apart are added whatever comes first. -/
theorem addEntries_of_perm
    (otherKeyed : other.Keyed)
    (apart : store.Apart other)
    {order : List (String × Definition)}
    (permuted : order.Perm other.table.entries) :
    addEntries order store = .ok (store.unite other) := by
  have distinct : (order.map Prod.fst).Nodup :=
    (permuted.map Prod.fst).nodup_iff.mpr other.table.keys_nodup
  have own : ∀ entry ∈ order, entry.2.id = entry.1 := by
    intro entry member
    exact otherKeyed entry.1 entry.2 (Table.mem_entries_iff.mp (permuted.mem_iff.mp member))
  have isNew : ∀ entry ∈ order, store.contains entry.1 = false := by
    intro entry member
    have inherited : entry.1 ∈ other.keys :=
      List.mem_map_of_mem (permuted.mem_iff.mp member)
    rw [Bool.eq_false_iff]
    intro contained
    exact apart entry.1 (Table.mem_keys_iff_contains.mpr contained) inherited
  rw [addEntries_eq_ok own distinct isNew, Table.overwrite_of_perm permuted distinct,
    Table.overwrite_eq_union apart]
  rfl

/-- Copying in any order ends as inheriting does, and refuses nothing. -/
theorem inheritAlong_outcome
    (otherKeyed : other.Keyed)
    {order : List (String × Definition)}
    (permuted : order.Perm other.table.entries) :
    (store.inherit other = .ok (store.unite other) ∧
        inheritAlong order store other = (store.unite other, .ok ())) ∨
      ∃ id, store.IsLeastShared other id ∧
        store.inherit other =
          .error (.duplicate .parameter id "inheriting store" "inherited store") ∧
        inheritAlong order store other =
          (store, .error (.duplicate .parameter id "inheriting store" "inherited store")) := by
  cases shared : store.firstShared other with
  | none =>
      have apart : store.Apart other := firstShared_eq_none_iff.mp shared
      have copied := addInPlace_of_ok (addEntries_of_perm otherKeyed apart permuted)
      refine Or.inl ⟨inherit_eq_ok otherKeyed shared, ?_⟩
      simp only [inheritAlong, shared, copied, mapError_ok]
  | some id =>
      refine Or.inr ⟨id, isLeastShared_of_firstShared shared, ?_, ?_⟩
      · rw [inherit, shared]
      · rw [inheritAlong, shared]

/-- Inheriting makes the reachable stores a partial commutative monoid.  It is
defined for stores that are apart; else it names the least common ID and leaves
the store as it was.  Neither it nor reading a mapping breaks the contract of
adding. -/
theorem inherit_partial_monoid
    (reachable : store.Reachable)
    (otherReachable : other.Reachable)
    (thirdReachable : third.Reachable) :
    store.Keyed ∧
      (empty.inherit store = .ok store ∧ store.inherit empty = .ok store) ∧
      ((∃ merged, store.inherit other = .ok merged) ↔ store.Apart other) ∧
      (∀ merged, store.inherit other = .ok merged ↔ other.inherit store = .ok merged) ∧
      (∀ merged,
        (store.inherit other >>= fun joined => joined.inherit third) = .ok merged ↔
          (other.inherit third >>= fun joined => store.inherit joined) = .ok merged) ∧
      (∀ order : List (String × Definition), order.Perm other.table.entries →
        (∀ refusal, (inheritAlong order store other).2 ≠ .error (.refused refusal)) ∧
        (∀ merged, store.inherit other = .ok merged →
          inheritAlong order store other = (merged, .ok ())) ∧
        ∀ fault, store.inherit other = .error fault →
          inheritAlong order store other = (store, .error fault) ∧
            ∃ id, store.IsLeastShared other id ∧
              fault = .duplicate .parameter id "inheriting store" "inherited store") ∧
      ∀ (pairs : List (Value × Value)) (fault : Fault) (refusal : Refusal),
        ofPairs pairs = .error fault → fault.root ≠ .refused refusal := by
  have keyed := reachable.keyed
  have otherKeyed := otherReachable.keyed
  have fromEmpty : empty.inherit store = .ok store :=
    (inherit_eq_ok_iff_apart keyed).mpr ⟨empty_apart store, (empty_unite store).symm⟩
  have intoEmpty : store.inherit empty = .ok store :=
    (inherit_comm keyed keyed_empty).mpr fromEmpty
  refine ⟨keyed, ⟨fromEmpty, intoEmpty⟩, ?_, ?_, ?_, ?_, ?_⟩
  · simp [inherit_eq_ok_iff_apart otherKeyed]
  · intro merged
    exact inherit_comm keyed otherKeyed
  · intro merged
    exact inherit_grouping otherKeyed thirdReachable.keyed
  · intro order permuted
    rcases inheritAlong_outcome otherKeyed permuted with ⟨done, copied⟩ | ⟨id, least, failed, kept⟩
    · rw [copied, done]
      refine ⟨?_, ?_, ?_⟩
      · intro refusal refused
        cases refused
      · intro merged same
        rw [Except.ok.inj same]
      · intro fault failed
        cases failed
    · rw [kept, failed]
      refine ⟨?_, ?_, ?_⟩
      · intro refusal refused
        cases refused
      · intro merged done
        cases done
      · intro fault same
        cases same
        exact ⟨rfl, id, least, rfl⟩
  · intro pairs fault refusal failed
    exact ofPairs_ne_refused failed refusal

end

/-- Text parameters of four stores.  The last store shares two names with the
first. -/
def fourStores : List (List (Value × Value)) :=
  [[Template.textPair "name", Template.textPair "event"], [Template.textPair "table"],
    [Template.textPair "seat"],
    [Template.textPair "name", Template.textPair "guest", Template.textPair "event"]]

theorem inherit_partial_monoid_fourStores :
    ∃ sheet table seat rival merged fault,
      ofPairs fourStores[0] = .ok sheet ∧
      ofPairs fourStores[1] = .ok table ∧
      ofPairs fourStores[2] = .ok seat ∧
      ofPairs fourStores[3] = .ok rival ∧
      (sheet.inherit table >>= fun joined => joined.inherit seat) = .ok merged ∧
      (table.inherit seat >>= fun joined => sheet.inherit joined) = .ok merged ∧
      merged.keys = ["event", "name", "seat", "table"] ∧
      sheet.inherit rival = .error fault ∧
      inheritAlong rival.table.entries.reverse sheet rival = (sheet, .error fault) ∧
      sheet.IsLeastShared rival "event" ∧
      fault = .duplicate .parameter "event" "inheriting store" "inherited store" := by
  obtain ⟨⟨_, _, _, _, _⟩, steps⟩ := exists_of_isOk
    (ofPairs fourStores[0] >>= fun sheet =>
      ofPairs fourStores[1] >>= fun table =>
        ofPairs fourStores[2] >>= fun seat =>
          ofPairs fourStores[3] >>= fun rival =>
            (sheet.inherit table >>= fun joined => joined.inherit seat) >>= fun merged =>
              .ok (sheet, table, seat, rival, merged))
    (by decide +kernel)
  simp only [bind_eq_ok_iff, Except.ok.injEq, Prod.mk.injEq] at steps
  obtain ⟨sheet, isSheet, table, isTable, seat, isSeat, rival, isRival, merged, isMerged, rfl, rfl,
    rfl, rfl, rfl⟩ := steps
  rw [← bind_eq_ok_iff] at isMerged
  have shown :
      (ofPairs fourStores[0] >>= fun sheet =>
        ofPairs fourStores[1] >>= fun table =>
          ofPairs fourStores[2] >>= fun seat =>
            ofPairs fourStores[3] >>= fun rival =>
              (sheet.inherit table >>= fun joined => joined.inherit seat) >>= fun merged =>
                .ok (merged.keys, sheet.firstShared rival)).toOption =
        some (["event", "name", "seat", "table"], some "event") := by
    decide +kernel
  rw [isSheet, isTable, isSeat, isRival] at shown
  change ((sheet.inherit table >>= fun joined => joined.inherit seat) >>= fun merged =>
    .ok (merged.keys, sheet.firstShared rival)).toOption = _ at shown
  rw [isMerged] at shown
  obtain ⟨keys, shared⟩ := Prod.mk.inj (Option.some.inj shown)
  obtain ⟨_, _, _, _, grouping, _⟩ :=
    inherit_partial_monoid (.ofPairs isSheet) (.ofPairs isTable) (.ofPairs isSeat)
  obtain ⟨_, _, _, _, _, copying, _⟩ :=
    inherit_partial_monoid (.ofPairs isSheet) (.ofPairs isRival) (.ofPairs isSeat)
  have failed : sheet.inherit rival =
      .error (.duplicate .parameter "event" "inheriting store" "inherited store") := by
    rw [inherit, shared]
  obtain ⟨_, _, refused⟩ := copying _ (List.reverse_perm rival.table.entries)
  obtain ⟨kept, _⟩ := refused _ failed
  exact ⟨sheet, table, seat, rival, merged, _, isSheet, isTable, isSeat, isRival, isMerged,
    (grouping merged).mp isMerged, keys, failed, kept, isLeastShared_of_firstShared shared, rfl⟩

end Chronicle.Parameter.Store
