import Chronicle.Proofs.Conversion

/-!
# Conversion of nested content

The entries of a mapping and the blocks of a choice are converted pair by pair.
Duplicates that are found deeper inside are reported under the label of the
entry or choice around them.
-/

namespace Chronicle.Content

open Yaml (Value)
open Record (Converts converts_readPairs readPair readPairs)

theorem decodePairs_eq_readPairs (pairs : List (Value × Value)) :
    decodePairs pairs [] Table.empty =
      readPairs .content decode pairs [] >>= fun items => .ok (Table.empty.overwrite items) := by
  apply Record.loop_eq_readPairs .content decode fun _ _ => True
  · exact fun _ _ => rfl
  · rintro ⟨key, value⟩ rest labels table _
    rw [decodePairs, readPair]
    cases Record.idOfKey key with
    | error fault => rfl
    | ok id =>
        cases found : Table.lookup id labels with
        | some first =>
            simp only [bind, Except.bind, found]
            rfl
        | none =>
            simp only [bind, Except.bind, found]
            cases decode id value <;> rfl
  · exact fun _ _ _ _ kept => kept
  · trivial

theorem decodeChoices_eq_readPairs (pairs : List (Value × Value)) :
    decodeChoices pairs [] Table.empty =
      readPairs .choice decodeChoice pairs [] >>= fun items =>
        .ok (Table.empty.overwrite items) := by
  apply Record.loop_eq_readPairs .choice decodeChoice fun _ _ => True
  · exact fun _ _ => rfl
  · rintro ⟨key, value⟩ rest labels table _
    rw [decodeChoices, readPair]
    cases Record.idOfKey key with
    | error fault => rfl
    | ok choice =>
        cases found : Table.lookup choice labels with
        | some first =>
            simp only [bind, Except.bind, found]
            rfl
        | none =>
            simp only [bind, Except.bind, found]
            cases decodeChoice choice value <;> rfl
  · exact fun _ _ _ _ kept => kept
  · trivial

theorem kindOf_ne_duplicate
    {id : String} {pairs : List (Value × Value)} {subject : Subject} {other first second : String} :
    kindOf id pairs ≠ .error (.duplicate subject other first second) := by
  intro failed
  rw [kindOf] at failed
  split at failed
  · cases failed
  · cases failed
  · split at failed <;> cases failed

theorem ownEntry_ne_duplicate
    {kind : Kind} {id : String} {pairs : List (Value × Value)} {subject : Subject}
    {other first second : String} :
    ownEntry kind id pairs ≠ .error (.duplicate subject other first second) := by
  intro failed
  rw [ownEntry] at failed
  split at failed <;> cases failed

/-- Duplicates inside an entry are reported under its label. -/
theorem decode_ne_duplicate
    (id : String) (value : Value) (subject : Subject) (other first second : String) :
    decode id value ≠ .error (.duplicate subject other first second) := by
  intro failed
  cases value with
  | mapping pairs =>
      rw [decode] at failed
      rcases bind_eq_error_iff.mp failed with noKind | ⟨kind, _, failed⟩
      · exact kindOf_ne_duplicate noKind
      · rcases bind_eq_error_iff.mp failed with noEntry | ⟨entry, _, failed⟩
        · exact ownEntry_ne_duplicate noEntry
        · cases content : decodeContent kind pairs with
          | none => simp [content, pure, Except.pure] at failed
          | some block =>
              rw [content] at failed
              rcases bind_eq_error_iff.mp failed with noBlock | ⟨_, _, ⟨⟩⟩
              obtain ⟨_, _, ⟨⟩⟩ := within_eq_error_iff.mp noBlock
  | _ => cases failed

theorem decodeChoice_ne_duplicate
    (choice : String) (value : Value) (subject : Subject) (other first second : String) :
    decodeChoice choice value ≠ .error (.duplicate subject other first second) := by
  intro failed
  cases value with
  | mapping pairs =>
      rw [decodeChoice] at failed
      rcases bind_eq_error_iff.mp failed with noEntries | ⟨_, _, ⟨⟩⟩
      obtain ⟨_, _, ⟨⟩⟩ := within_eq_error_iff.mp noEntries
  | _ => cases failed

theorem decodeMap_converts (pairs : List (Value × Value)) :
    Converts .content decode pairs (decodeMap pairs) := by
  rw [decodeMap, decodePairs_eq_readPairs]
  exact converts_readPairs .content decode_ne_duplicate pairs

theorem decodeChoices_converts (pairs : List (Value × Value)) :
    Converts .choice decodeChoice pairs (decodeChoices pairs [] Table.empty) := by
  rw [decodeChoices_eq_readPairs]
  exact converts_readPairs .choice decodeChoice_ne_duplicate pairs

end Chronicle.Content
