import Chronicle.Content.Decode
import Chronicle.Proofs.Outcome
import Chronicle.Proofs.Paired
import Chronicle.Proofs.Table

/-!
# Mappings under converted keys

Entries, the blocks of a choice and parameters are read alike: every key is
converted to an ID, the pair is refused if an earlier one has this ID, and else
its value is read.  A mapping is accepted exactly if all its pairs can be read
and no two have one ID, and else the first pair at fault is reported.
-/

namespace Chronicle.Record

open Yaml (Value)
open Content (Labels)

/-! ## Keys -/

/-- Texts stand for themselves, numbers and booleans for their text, and other
keys for nothing. -/
inductive HasId : Value → String → Prop
  | text (text : String) : HasId (.string text) text
  | number (number : Yaml.Number) : HasId (.number number) number.text
  | bool (value : Bool) : HasId (.bool value) (toString value)

theorem idOfKey_eq_ok_iff
    {key : Value} {id : String} :
    idOfKey key = .ok id ↔ HasId key id := by
  constructor
  · intro converted
    cases key <;> cases converted <;> constructor
  · rintro (_ | _ | _) <;> rfl

theorem idOfKey_eq_error_iff
    {key : Value} {fault : Fault} :
    idOfKey key = .error fault ↔ (∀ id, ¬ HasId key id) ∧ fault = .bare (.keyNotText key) := by
  simp only [← idOfKey_eq_ok_iff]
  cases key <;> simp [idOfKey, eq_comm]

theorem HasId.unique
    {key : Value} {id other : String}
    (isId : HasId key id) (isOther : HasId key other) :
    id = other := by
  rw [← idOfKey_eq_ok_iff] at isId isOther
  exact Except.ok.inj (isId.symm.trans isOther)

/-! ## Pairs -/

variable {α : Type} (subject : Subject) (read : String → Value → Except Fault α)

def SameId (first second : Value × Value) : Prop :=
  ∃ id, HasId first.1 id ∧ HasId second.1 id

/-- The item has the ID of the key, and what is read from the value under it. -/
structure ReadAs (pair : Value × Value) (item : String × α) : Prop where
  id : HasId pair.1 item.1
  value : read item.1 pair.2 = .ok item.2

structure Convertible (pairs : List (Value × Value)) : Prop where
  readable : ∀ pair ∈ pairs, ∃ item, ReadAs read pair item
  distinct : pairs.Pairwise fun first second => ¬ SameId first second

/-- What is wrong with a pair behind others. -/
inductive Offence (before : List (Value × Value)) (pair : Value × Value) : Fault → Prop
  | key (noId : ∀ id, ¬ HasId pair.1 id) :
      Offence before pair (.bare (.keyNotText pair.1))
  | repeated {earlier : Value × Value} {id : String}
      (member : earlier ∈ before)
      (earlierId : HasId earlier.1 id)
      (isId : HasId pair.1 id) :
      Offence before pair (.duplicate subject id (keyLabel earlier.1) (keyLabel pair.1))
  | value {id : String} {fault : Fault}
      (isId : HasId pair.1 id)
      (isNew : ∀ earlier ∈ before, ¬ HasId earlier.1 id)
      (failed : read id pair.2 = .error fault) :
      Offence before pair fault

section

variable {subject : Subject} {read : String → Value → Except Fault α}
  {pairs before after : List (Value × Value)} {pair : Value × Value} {fault : Fault}

theorem convertible_nil : Convertible read [] :=
  ⟨by simp, List.Pairwise.nil⟩

theorem Convertible.concat
    (convertible : Convertible read before)
    {item : String × α}
    (readAs : ReadAs read pair item)
    (isNew : ∀ earlier ∈ before, ¬ HasId earlier.1 item.1) :
    Convertible read (before ++ [pair]) := by
  constructor
  · intro other member
    rcases List.mem_append.mp member with inBefore | isLast
    · exact convertible.readable other inBefore
    · exact ⟨item, List.mem_singleton.mp isLast ▸ readAs⟩
  · refine List.pairwise_append.mpr ⟨convertible.distinct, List.pairwise_singleton .., ?_⟩
    intro earlier member other isLast
    rw [List.mem_singleton.mp isLast]
    rintro ⟨id, earlierId, isId⟩
    exact isNew earlier member (readAs.id.unique isId ▸ earlierId)

theorem Offence.not_convertible
    (offence : Offence subject read before pair fault) :
    ¬ Convertible read (before ++ pair :: after) := by
  intro convertible
  have inPairs : pair ∈ before ++ pair :: after := by simp
  obtain ⟨item, readAs⟩ := convertible.readable pair inPairs
  cases offence with
  | key noId => exact noId item.1 readAs.id
  | @repeated earlier id member earlierId isId =>
      have apart := (List.pairwise_append.mp convertible.distinct).2.2
      exact apart earlier member pair (List.mem_cons_self ..) ⟨id, earlierId, isId⟩
  | value isId _ failed =>
      rw [isId.unique readAs.id, readAs.value] at failed
      cases failed

/-- Of convertible pairs only one has a given ID. -/
theorem Convertible.eq_of_hasId
    (convertible : Convertible read pairs)
    {first second : Value × Value} {id : String}
    (inPairs : first ∈ pairs) (alsoInPairs : second ∈ pairs)
    (firstId : HasId first.1 id) (secondId : HasId second.1 id) :
    first = second := by
  have distinct := convertible.distinct
  clear convertible
  induction distinct with
  | nil => cases inPairs
  | cons headApart _ inductionHypothesis =>
      rcases List.mem_cons.mp inPairs with rfl | firstRest
      · rcases List.mem_cons.mp alsoInPairs with rfl | secondRest
        · rfl
        · exact absurd ⟨id, firstId, secondId⟩ (headApart second secondRest)
      · rcases List.mem_cons.mp alsoInPairs with rfl | secondRest
        · exact absurd ⟨id, secondId, firstId⟩ (headApart first firstRest)
        · exact inductionHypothesis firstRest secondRest

/-- A repeated ID, and nothing else, is reported as a duplicate, under the
labels of both keys. -/
theorem Offence.eq_duplicate_iff
    (offence : Offence subject read before pair fault)
    (convertible : Convertible read before)
    (plain : ∀ id value of id' first second,
      read id value ≠ .error (.duplicate of id' first second))
    {of : Subject} {id first second : String} :
    fault = .duplicate of id first second ↔
      of = subject ∧ ∃ earlier ∈ before, HasId earlier.1 id ∧ HasId pair.1 id ∧
        first = keyLabel earlier.1 ∧ second = keyLabel pair.1 := by
  constructor
  · rintro rfl
    cases offence with
    | repeated member earlierId isId => exact ⟨rfl, _, member, earlierId, isId, rfl, rfl⟩
    | value _ _ failed => exact (plain _ _ _ _ _ _ failed).elim
  · rintro ⟨rfl, earlier, member, earlierId, isId, rfl, rfl⟩
    cases offence with
    | key noId => exact absurd isId (noId id)
    | repeated otherMember otherId isOther =>
        have sameId := isOther.unique isId
        subst sameId
        rw [convertible.eq_of_hasId otherMember member otherId earlierId]
    | value isOther isNew _ => exact absurd (isOther.unique isId ▸ earlierId) (isNew earlier member)

end

/-! ## Reading -/

/-- Reads one pair behind those with the given labels. -/
def readPair (labels : Labels) (pair : Value × Value) : Except Fault (String × α) := do
  let id ← idOfKey pair.1
  match Table.lookup id labels with
  | some first => throw (.duplicate subject id first (keyLabel pair.1))
  | none => return (id, ← read id pair.2)

/-- The items of a mapping in the order of its pairs. -/
def readPairs : List (Value × Value) → Labels → Except Fault (List (String × α))
  | [], _ => .ok []
  | pair :: rest, labels => do
      let item ← readPair subject read labels pair
      let further ← readPairs rest ((item.1, keyLabel pair.1) :: labels)
      return item :: further

section

variable {before : List (Value × Value)} {pair : Value × Value} {labels : Labels}

/-- The labels tell, for every ID, which of the pairs has it. -/
def Labelled (before : List (Value × Value)) (labels : Labels) : Prop :=
  ∀ id label, (id, label) ∈ labels ↔
    ∃ earlier ∈ before, HasId earlier.1 id ∧ label = keyLabel earlier.1

theorem labelled_nil : Labelled [] [] := by
  simp [Labelled]

theorem Labelled.concat
    (labelled : Labelled before labels)
    {id : String}
    (isId : HasId pair.1 id) :
    Labelled (before ++ [pair]) ((id, keyLabel pair.1) :: labels) := by
  intro other label
  rw [List.mem_cons, labelled]
  simp only [List.mem_append, List.mem_singleton, or_and_right, exists_or, exists_eq_left]
  rw [or_comm]
  refine or_congr_right ⟨?_, ?_⟩
  · rintro ⟨⟩
    exact ⟨isId, rfl⟩
  · rintro ⟨otherId, rfl⟩
    rw [isId.unique otherId]

theorem readPair_outcome
    (labelled : Labelled before labels) (pair : Value × Value) :
    (∃ item, readPair subject read labels pair = .ok item ∧ ReadAs read pair item ∧
        ∀ earlier ∈ before, ¬ HasId earlier.1 item.1) ∨
      ∃ fault, readPair subject read labels pair = .error fault ∧
        Offence subject read before pair fault := by
  rw [readPair]
  cases converted : idOfKey pair.1 with
  | error fault =>
      obtain ⟨noId, rfl⟩ := idOfKey_eq_error_iff.mp converted
      exact Or.inr ⟨_, rfl, .key noId⟩
  | ok id =>
      have isId := idOfKey_eq_ok_iff.mp converted
      cases found : Table.lookup id labels with
      | some first =>
          obtain ⟨earlier, member, earlierId, rfl⟩ :=
            (labelled id first).mp (Table.mem_of_lookup found)
          refine Or.inr ⟨_, ?_, .repeated member earlierId isId⟩
          simp only [bind, Except.bind, found]
          rfl
      | none =>
          have isNew : ∀ earlier ∈ before, ¬ HasId earlier.1 id := by
            intro earlier member earlierId
            have labelledId := (labelled id _).mpr ⟨earlier, member, earlierId, rfl⟩
            exact Table.lookup_eq_none_iff.mp found (List.mem_map.mpr ⟨_, labelledId, rfl⟩)
          simp only [bind, Except.bind, found]
          cases outcome : read id pair.2 with
          | error fault => exact Or.inr ⟨fault, rfl, .value isId isNew outcome⟩
          | ok item => exact Or.inl ⟨(id, item), rfl, ⟨isId, outcome⟩, isNew⟩

theorem readPairs_outcome
    (pairs : List (Value × Value))
    (labelled : Labelled before labels)
    (convertible : Convertible read before) :
    (∃ items, readPairs subject read pairs labels = .ok items ∧
        List.Forall₂ (ReadAs read) pairs items ∧ Convertible read (before ++ pairs)) ∨
      ∃ fault between pair after, readPairs subject read pairs labels = .error fault ∧
        pairs = between ++ pair :: after ∧ Convertible read (before ++ between) ∧
        Offence subject read (before ++ between) pair fault := by
  -- The loop goes on while the pairs behind it are convertible and their labels are known.
  induction pairs generalizing before labels with
  | nil => exact Or.inl ⟨[], rfl, .nil, by simpa using convertible⟩
  | cons head rest inductionHypothesis =>
      rw [readPairs]
      rcases readPair_outcome subject read labelled head with
        ⟨item, headRead, readAs, isNew⟩ | ⟨fault, refused, offence⟩
      · rw [headRead]
        have grown := convertible.concat readAs isNew
        rcases inductionHypothesis (labelled.concat readAs.id) grown with
          ⟨items, restRead, all, allConvertible⟩ | ⟨fault, between, pair, after, refused, split,
            prior, offence⟩
        · refine Or.inl ⟨item :: items, ?_, .cons readAs all, by simpa using allConvertible⟩
          simp only [bind, Except.bind, restRead]
          rfl
        · refine Or.inr ⟨fault, head :: between, pair, after, ?_, ?_, ?_, ?_⟩
          · simp only [bind, Except.bind, refused]
          · rw [split, List.cons_append]
          · simpa using prior
          · simpa using offence
      · refine Or.inr ⟨fault, [], head, rest, ?_, rfl, ?_, ?_⟩
        · rw [refused]
          rfl
        · simpa using convertible
        · simpa using offence

end

/-! ## Tables -/

theorem ReadAs.ids
    {read : String → Value → Except Fault α}
    {pairs : List (Value × Value)} {items : List (String × α)}
    (all : List.Forall₂ (ReadAs read) pairs items) :
    List.Forall₂ (fun pair id => HasId pair.1 id) pairs (items.map Prod.fst) :=
  List.forall₂_map_right_iff.mpr (all.imp fun _ _ readAs => readAs.id)

theorem ReadAs.nodup_ids
    {read : String → Value → Except Fault α}
    {pairs : List (Value × Value)} {items : List (String × α)}
    (all : List.Forall₂ (ReadAs read) pairs items)
    (distinct : pairs.Pairwise fun first second => ¬ SameId first second) :
    (items.map Prod.fst).Nodup := by
  apply Paired.nodup_right (ReadAs.ids all) distinct
  intro first second id firstId secondId apart
  exact apart ⟨id, firstId, secondId⟩

/-- A mapping is turned into a table with one entry for each pair, or refused
for the first pair that is at fault. -/
structure Converts (pairs : List (Value × Value)) (outcome : Except Fault (Table α)) :
    Prop where
  accepted : (∃ table, outcome = .ok table) ↔ Convertible read pairs
  complete : ∀ table, outcome = .ok table →
    ∃ items, List.Forall₂ (ReadAs read) pairs items ∧ table.entries.Perm items
  refused : ∀ fault, outcome = .error fault →
    ∃ before pair after, pairs = before ++ pair :: after ∧ Convertible read before ∧
      Offence subject read before pair fault ∧
      ∀ of id first second, fault = .duplicate of id first second ↔
        of = subject ∧ ∃ earlier ∈ before, HasId earlier.1 id ∧ HasId pair.1 id ∧
          first = keyLabel earlier.1 ∧ second = keyLabel pair.1

theorem converts_readPairs
    {read : String → Value → Except Fault α}
    (plain : ∀ id value of id' first second,
      read id value ≠ .error (.duplicate of id' first second))
    (pairs : List (Value × Value)) :
    Converts subject read pairs
      (readPairs subject read pairs [] >>= fun items => .ok (Table.empty.overwrite items)) := by
  rcases readPairs_outcome subject read pairs labelled_nil convertible_nil with
    ⟨items, allRead, all, convertible⟩ | ⟨fault, before, pair, after, refused, split, convertible,
      offence⟩
  · rw [List.nil_append] at convertible
    rw [allRead]
    refine ⟨⟨fun _ => convertible, fun _ => ⟨_, rfl⟩⟩, ?_, ?_⟩
    · intro table done
      cases done
      have kept : (Table.empty.overwrite items).entries.Perm (items ++ []) :=
        Table.perm_overwrite (ReadAs.nodup_ids all convertible.distinct)
          (by simp [Table.keys, Table.empty])
      exact ⟨items, all, by simpa using kept⟩
    · intro fault failed
      cases failed
  · rw [List.nil_append] at convertible offence
    rw [refused]
    refine ⟨⟨?_, ?_⟩, ?_, ?_⟩
    · intro accepted
      obtain ⟨_, done⟩ := accepted
      cases done
    · intro allConvertible
      exact (offence.not_convertible (split ▸ allConvertible)).elim
    · intro _ done
      cases done
    · intro _ failed
      cases failed
      exact ⟨before, pair, after, split, convertible, offence, fun _ _ _ _ =>
        offence.eq_duplicate_iff convertible plain⟩

theorem ReadAs.unique
    {read : String → Value → Except Fault α}
    {pair : Value × Value} {item other : String × α}
    (readAs : ReadAs read pair item)
    (otherReadAs : ReadAs read pair other) :
    item = other := by
  have sameId : item.1 = other.1 := readAs.id.unique otherReadAs.id
  have sameValue : Except.ok item.2 = (Except.ok other.2 : Except Fault α) := by
    rw [← readAs.value, sameId, otherReadAs.value]
  exact Prod.ext sameId (Except.ok.inj sameValue)

theorem forall₂_readAs_iff
    {read : String → Value → Except Fault α}
    {pairs : List (Value × Value)} {items : List (String × α)} :
    List.Forall₂ (ReadAs read) pairs items ↔
      List.Forall₂ (fun pair item => HasId pair.1 item.1) pairs items ∧
        List.Forall₂ (fun pair item => read item.1 pair.2 = .ok item.2) pairs items := by
  rw [← Paired.and_iff]
  constructor
  · intro all
    exact all.imp fun _ _ readAs => ⟨readAs.id, readAs.value⟩
  · intro all
    exact all.imp fun _ _ both => ⟨both.1, both.2⟩

/-- The items in increasing order of their IDs, of which no two are the same. -/
structure Arranged (items content : List (String × α)) : Prop where
  perm : content.Perm items
  increasing : content.Pairwise fun earlier later => earlier.1 < later.1

/-- A mapping is converted to the items of its pairs, in order. -/
theorem Converts.entries_iff
    {subject : Subject} {read : String → Value → Except Fault α}
    {pairs : List (Value × Value)} {outcome : Except Fault (Table α)}
    (converts : Converts subject read pairs outcome)
    {content : List (String × α)} :
    (∃ table, outcome = .ok table ∧ table.entries = content) ↔
      ∃ items, List.Forall₂ (ReadAs read) pairs items ∧ Arranged items content := by
  constructor
  · rintro ⟨table, done, rfl⟩
    obtain ⟨items, all, kept⟩ := converts.complete table done
    exact ⟨items, all, kept, table.ordered⟩
  · rintro ⟨items, all, perm, increasing⟩
    let arranged : Table α := ⟨content, increasing⟩
    have distinct : (items.map Prod.fst).Nodup :=
      (perm.map Prod.fst).nodup_iff.mp arranged.keys_nodup
    have convertible : Convertible read pairs := by
      constructor
      · intro pair member
        obtain ⟨item, _, readAs⟩ := Paired.exists_right all member
        exact ⟨item, readAs⟩
      · apply Paired.pairwise_left (ReadAs.ids all) distinct
        rintro first second firstId secondId isFirst isSecond different ⟨id, sameFirst, sameSecond⟩
        exact different ((isFirst.unique sameFirst).trans (sameSecond.unique isSecond))
    obtain ⟨table, done⟩ := converts.accepted.mpr convertible
    obtain ⟨others, allOthers, kept⟩ := converts.complete table done
    have same : items = others := by
      refine List.right_unique_forall₂' ?_ all allOthers
      intro pair item other
      exact ReadAs.unique
    have isArranged : table = arranged := Table.eq_of_perm (kept.trans (same ▸ perm.symm))
    exact ⟨table, done, congrArg Table.entries isArranged⟩

/-- Of all splits of a list there is one at most with a pair at fault behind
convertible ones. -/
theorem Offence.same_place
    {subject : Subject} {read : String → Value → Except Fault α}
    {before after otherBefore otherAfter : List (Value × Value)} {pair other : Value × Value}
    {fault otherFault : Fault}
    (convertible : Convertible read before)
    (offence : Offence subject read before pair fault)
    (otherConvertible : Convertible read otherBefore)
    (otherOffence : Offence subject read otherBefore other otherFault)
    (same : before ++ pair :: after = otherBefore ++ other :: otherAfter) :
    before = otherBefore ∧ pair = other := by
  rcases List.append_eq_append_iff.mp same with
    ⟨between, rfl, split⟩ | ⟨between, rfl, split⟩
  · cases between with
    | nil => exact ⟨(List.append_nil before).symm, (List.cons.inj split).1⟩
    | cons head rest =>
        obtain ⟨rfl, _⟩ := List.cons.inj split
        exact absurd otherConvertible offence.not_convertible
  · cases between with
    | nil => exact ⟨List.append_nil otherBefore, (List.cons.inj split).1.symm⟩
    | cons head rest =>
        obtain ⟨rfl, _⟩ := List.cons.inj split
        exact absurd convertible otherOffence.not_convertible

/-- The first pair whose value is refused is what a mapping is refused for. -/
theorem Converts.eq_error_of_value
    {subject : Subject} {read : String → Value → Except Fault α}
    {before after : List (Value × Value)} {pair : Value × Value} {outcome : Except Fault (Table α)}
    {id : String} {fault : Fault}
    (converts : Converts subject read (before ++ pair :: after) outcome)
    (convertible : Convertible read before)
    (isId : HasId pair.1 id)
    (isNew : ∀ earlier ∈ before, ¬ HasId earlier.1 id)
    (failed : read id pair.2 = .error fault) :
    outcome = .error fault := by
  have offence : Offence subject read before pair fault := .value isId isNew failed
  cases done : outcome with
  | ok table => exact absurd (converts.accepted.mp ⟨table, done⟩) offence.not_convertible
  | error raised =>
      obtain ⟨otherBefore, other, otherAfter, split, otherConvertible, otherOffence, _⟩ :=
        converts.refused raised done
      obtain ⟨rfl, rfl⟩ := offence.same_place convertible otherConvertible otherOffence split
      cases otherOffence with
      | key noId => exact absurd isId (noId id)
      | repeated member earlierId isOther =>
          exact absurd (isOther.unique isId ▸ earlierId) (isNew _ member)
      | value isOther _ otherFailed =>
          rw [isOther.unique isId, failed] at otherFailed
          exact congrArg Except.error (Except.error.inj otherFailed).symm

/-- A loop that inserts what it reads from every pair. -/
theorem loop_eq_readPairs
    {loop : List (Value × Value) → Labels → Table α → Except Fault (Table α)}
    (Kept : Labels → Table α → Prop)
    (stop : ∀ labels table, loop [] labels table = .ok table)
    (next : ∀ pair rest labels table, Kept labels table →
      loop (pair :: rest) labels table =
        readPair subject read labels pair >>= fun item =>
          loop rest ((item.1, keyLabel pair.1) :: labels) (table.insert item.1 item.2))
    (keeps : ∀ label (item : String × α) labels table, Kept labels table →
      Kept ((item.1, label) :: labels) (table.insert item.1 item.2))
    (pairs : List (Value × Value))
    {labels : Labels} {table : Table α}
    (kept : Kept labels table) :
    loop pairs labels table =
      readPairs subject read pairs labels >>= fun items => .ok (table.overwrite items) := by
  induction pairs generalizing labels table with
  | nil => exact stop labels table
  | cons pair rest inductionHypothesis =>
      rw [next pair rest labels table kept, readPairs]
      cases readPair subject read labels pair with
      | error fault => rfl
      | ok item =>
          change loop rest _ _ = _
          rw [inductionHypothesis (keeps _ item labels table kept)]
          simp only [bind, Except.bind]
          cases readPairs subject read rest ((item.1, keyLabel pair.1) :: labels) <;> rfl

end Chronicle.Record
