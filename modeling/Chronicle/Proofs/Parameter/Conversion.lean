import Chronicle.Proofs.Conversion
import Chronicle.Proofs.Parameter.Store
import Chronicle.Proofs.Yaml.Shape

/-!
# Conversion of parameters

A definition is read without an ID and gets the one under which it is added.  As
the labels of a mapping tell which IDs are taken, no addition is ever refused.
-/

namespace Chronicle.Parameter

open Yaml (Value)
open Record (Converts converts_readPairs readPair readPairs)

namespace Definition

/-! ## Single definitions -/

/-- The definition that is read from a value, under an ID of its own. -/
def decodeUnder (id : String) (value : Value) : Except Fault Definition := do
  let definition ← decode id value
  return { definition with id := id }

/-- A definition has no ID until it is added to a store. -/
theorem id_of_decode
    {id : String} {value : Value} {definition : Definition}
    (decoded : decode id value = .ok definition) :
    definition.id = "" := by
  rw [decode.eq_def] at decoded
  split at decoded
  · obtain ⟨kind, _, decoded⟩ := bind_eq_ok_iff.mp decoded
    dsimp only at decoded
    split at decoded
    · rename_i run
      cases decoded
      refine Yaml.Shape.fields_keep (fun draft => draft.id = "") ?_ run rfl
      intro field given draft next read kept
      cases field <;>
      · simp only [readField, bind_eq_ok_iff] at read
        obtain ⟨_, _, made⟩ := read
        cases made
        exact kept
    · cases decoded
  · cases decoded

inductive Plain : Fault → Prop
  | bare {cause : LoadCause} : Plain (.bare cause)
  | unknownType {tag : String} : Plain (.unknownType .parameter tag)
  | context {text : String} {cause : LoadCause} : Plain (.context text (.bare cause))

theorem plain_of_decode
    {id : String} {value : Value} {fault : Fault}
    (failed : decode id value = .error fault) :
    Plain fault := by
  rw [decode.eq_def] at failed
  split at failed
  · rcases bind_eq_error_iff.mp failed with noKind | ⟨kind, _, failed⟩
    · rw [kindOf] at noKind
      split at noKind
      · cases noKind
        exact .bare
      · cases noKind
        exact .bare
      · split at noKind
        · cases noKind
        · cases noKind
          exact .unknownType
    · dsimp only at failed
      split at failed
      · cases failed
      · cases failed
        exact .context
  · cases failed
    exact .bare

theorem decodeUnder_eq_error_iff
    {id : String} {value : Value} {fault : Fault} :
    decodeUnder id value = .error fault ↔ decode id value = .error fault := by
  rw [decodeUnder, bind_eq_error_iff]
  simp [pure, Except.pure]

theorem decodeUnder_ne_duplicate
    (id : String) (value : Value) (subject : Subject) (other first second : String) :
    decodeUnder id value ≠ .error (.duplicate subject other first second) := by
  intro failed
  cases plain_of_decode (decodeUnder_eq_error_iff.mp failed)

end Definition

namespace Store

/-! ## Stores -/

open Definition (decodeUnder)

/-- Every ID that is taken has a label, so that no addition is refused. -/
def Reserved (labels : Content.Labels) (table : Table Definition) : Prop :=
  ∀ id ∈ table.keys, id ∈ labels.map Prod.fst

theorem Reserved.insert
    {labels : Content.Labels} {table : Table Definition}
    (reserved : Reserved labels table)
    (id label : String) (definition : Definition) :
    Reserved ((id, label) :: labels) (table.insert id definition) := by
  intro other isKey
  obtain ⟨found, isFound⟩ := Table.mem_keys_iff.mp isKey
  rw [List.map_cons, List.mem_cons]
  by_cases same : id = other
  · exact Or.inl same.symm
  · rw [Table.get?_insert_of_ne same] at isFound
    exact Or.inr (reserved other (Table.mem_keys_iff.mpr ⟨found, isFound⟩))

theorem add_of_reserved
    {labels : Content.Labels} {store : Store}
    (reserved : Reserved labels store.table)
    {id : String} {value : Value} {definition : Definition}
    (isNew : Table.lookup id labels = none)
    (decoded : Definition.decode id value = .ok definition) :
    store.add id definition = .ok ⟨store.table.insert id { definition with id := id }⟩ := by
  refine add_eq_ok_iff.mpr ⟨Or.inl (Definition.id_of_decode decoded), ?_, rfl⟩
  apply Table.contains_eq_false_iff.mpr
  apply Table.lookup_eq_none_iff.mpr
  intro isKey
  exact Table.lookup_eq_none_iff.mp isNew (reserved id isKey)

theorem addPairs_eq_readPairs (pairs : List (Value × Value)) :
    (ofPairs pairs >>= fun store => .ok store.table) =
      readPairs .parameter decodeUnder pairs [] >>= fun items =>
        .ok (Table.empty.overwrite items) := by
  let loop := fun pairs labels table =>
    addPairs pairs labels ⟨table⟩ >>= fun store => Except.ok store.table
  change loop pairs [] Table.empty = _
  apply Record.loop_eq_readPairs .parameter decodeUnder Reserved
  · exact fun _ _ => rfl
  · rintro ⟨key, value⟩ rest labels table reserved
    simp only [loop]
    rw [addPairs, readPair]
    cases Record.idOfKey key with
    | error fault => rfl
    | ok id =>
        cases found : Table.lookup id labels with
        | some first =>
            simp only [bind, Except.bind, found]
            rfl
        | none =>
            simp only [bind, Except.bind, found, decodeUnder]
            cases decoded : Definition.decode id value with
            | error fault => rfl
            | ok definition =>
                have added := @add_of_reserved labels ⟨table⟩ reserved id value definition found decoded
                simp only [added, mapError_ok]
                rfl
  · exact fun label item labels table reserved => reserved.insert item.1 label item.2
  · intro id isKey
    cases isKey

theorem ofPairs_converts (pairs : List (Value × Value)) :
    Converts .parameter decodeUnder pairs (ofPairs pairs >>= fun store => .ok store.table) := by
  rw [addPairs_eq_readPairs]
  exact converts_readPairs .parameter Definition.decodeUnder_ne_duplicate pairs

/-- Reading a mapping never breaks the contract of the store. -/
theorem ofPairs_ne_refused
    {pairs : List (Value × Value)} {fault : Fault}
    (failed : ofPairs pairs = .error fault) (refusal : Refusal) :
    fault.root ≠ .refused refusal := by
  have refused : (ofPairs pairs >>= fun store => .ok store.table) = .error fault := by
    rw [failed]
    rfl
  obtain ⟨before, pair, after, _, _, offence, _⟩ := (ofPairs_converts pairs).refused fault refused
  intro isRefused
  cases offence with
  | key | repeated => cases isRefused
  | value _ _ failed =>
      cases Definition.plain_of_decode (Definition.decodeUnder_eq_error_iff.mp failed) <;>
        cases isRefused

end Store

end Chronicle.Parameter
