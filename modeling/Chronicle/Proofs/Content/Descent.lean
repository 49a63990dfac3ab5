import Mathlib.Data.List.Lex
import Chronicle.Proofs.Content.Grammar
import Chronicle.Proofs.Wrapping

/-!
# Faults of nested entries

An entry that cannot be decoded is at fault itself, or it fails because of an
entry directly below it, which is at fault itself or fails in turn.  So every
failure has one entry at fault, the first one in the order of the document, and
its fault is reported in the labels of all entries and branches around it.
-/

namespace Chronicle

open Yaml (Value)

/-! ## Pairs that are reached -/

/-- Reading comes as far as a pair with the ID: all pairs before it can be read,
and none of them has this ID. -/
structure Record.Reached {α : Type} (read : String → Value → Except Fault α)
    (before : List (Value × Value)) (id : String) : Prop where
  convertible : Convertible read before
  isNew : ∀ earlier ∈ before, ¬ HasId earlier.1 id

/-- No condition on the pairs before a pair. -/
def Record.Unconditional {α : Type} (_ : String → Value → Except Fault α)
    (_ : List (Value × Value)) (_ : String) : Prop :=
  True

/-- What is wrong with the key of a pair behind others. -/
inductive Record.KeyOffence (subject : Subject) (before : List (Value × Value))
    (pair : Value × Value) : Fault → Prop
  | noId (noId : ∀ id, ¬ HasId pair.1 id) :
      KeyOffence subject before pair (.bare (.keyNotText pair.1))
  | repeated {earlier : Value × Value} {id : String}
      (member : earlier ∈ before)
      (earlierId : HasId earlier.1 id)
      (isId : HasId pair.1 id) :
      KeyOffence subject before pair
        (.duplicate subject id (keyLabel earlier.1) (keyLabel pair.1))

theorem Record.Offence.key_or_value
    {α : Type} {subject : Subject} {read : String → Value → Except Fault α}
    {before : List (Value × Value)} {pair : Value × Value} {fault : Fault}
    (offence : Offence subject read before pair fault)
    (convertible : Convertible read before) :
    KeyOffence subject before pair fault ∨
      ∃ id, HasId pair.1 id ∧ Reached read before id ∧ read id pair.2 = .error fault := by
  cases offence with
  | key noId => exact Or.inl (.noId noId)
  | repeated member earlierId isId => exact Or.inl (.repeated member earlierId isId)
  | value isId isNew failed => exact Or.inr ⟨_, isId, ⟨convertible, isNew⟩, failed⟩

/-- A pair that is reached comes no later than one whose value is refused. -/
theorem Record.Reached.first
    {α : Type} {read : String → Value → Except Fault α}
    {before after otherBefore otherAfter : List (Value × Value)} {pair other : Value × Value}
    {id otherId : String} {fault : Fault}
    (reached : Reached read before id)
    (isOther : HasId other.1 otherId)
    (failed : read otherId other.2 = .error fault)
    (same : before ++ pair :: after = otherBefore ++ other :: otherAfter) :
    before.length < otherBefore.length ∨ before = otherBefore ∧ pair = other := by
  rcases List.append_eq_append_iff.mp same with
    ⟨between, rfl, split⟩ | ⟨between, rfl, split⟩
  · cases between with
    | nil => exact Or.inr ⟨(List.append_nil before).symm, (List.cons.inj split).1⟩
    | cons => exact Or.inl (by simp)
  · cases between with
    | nil => exact Or.inr ⟨List.append_nil otherBefore, (List.cons.inj split).1.symm⟩
    | cons head rest =>
        obtain ⟨rfl, _⟩ := List.cons.inj split
        obtain ⟨item, readAs⟩ := reached.convertible.readable other (by simp)
        have done := readAs.value
        rw [readAs.id.unique isOther, failed] at done
        cases done

/-- A mapping with a value that is refused is refused. -/
theorem Record.Converts.fails_of_value
    {α : Type} {subject : Subject} {read : String → Value → Except Fault α}
    {before after : List (Value × Value)} {outcome : Except Fault (Table α)}
    {key value : Value} {id : String} {fault : Fault}
    (converts : Converts subject read (before ++ (key, value) :: after) outcome)
    (isId : HasId key id)
    (failed : read id value = .error fault) :
    ∃ raised, outcome = .error raised := by
  cases done : outcome with
  | error raised => exact ⟨raised, rfl⟩
  | ok table =>
      obtain ⟨item, isItem, isRead⟩ :=
        (converts.accepted.mp ⟨table, done⟩).readable (key, value) (by simp)
      rw [isItem.unique isId, failed] at isRead
      cases isRead

namespace Content

open Record (Convertible HasId KeyOffence Reached Unconditional)

/-! ## Entries that are entered -/

/-- The type and the own fields of an entry can be read, its kind has nested
content, and there is a pair for it. -/
inductive Opens (id : String) : Value → Kind → Value → Prop
  | intro {pairs : List (Value × Value)} {kind : Kind} {entry : Entry} {content : Value}
      (isKind : kindOf id pairs = .ok kind)
      (isOwn : ownEntry kind id pairs = .ok entry)
      (nests : kind.nests = true)
      (isContent : Value.get? "content" pairs = some content) :
      Opens id (.mapping pairs) kind content

/-- One step down: the entry that is entered, and in a choice the branch. -/
structure Turn where
  id : String
  branch : Option String

/-- The labels that one step puts around a fault, the outermost first. -/
def Turn.labels (turn : Turn) : List String :=
  s!"content entry '{turn.id}'" :: turn.branch.toList.map fun branch => s!"choice '{branch}'"

section

variable (Before : {α : Type} → (String → Value → Except Fault α) →
  List (Value × Value) → String → Prop)

/-- An entry directly below another one.  Its place counts the pairs before it
in the nested mapping; in a choice those before the branch come first. -/
inductive Directly (id : String) (value : Value) : Turn → List Nat → String → Value → Prop
  | trigger {before after : List (Value × Value)} {key child : Value} {childId : String}
      (opens : Opens id value .trigger (.mapping (before ++ (key, child) :: after)))
      (isId : HasId key childId)
      (condition : Before decode before childId) :
      Directly id value ⟨id, none⟩ [before.length] childId child
  | choice {before after earlier later : List (Value × Value)} {branchKey key child : Value}
      {branch childId : String}
      (opens : Opens id value .choice (.mapping
        (before ++ (branchKey, .mapping (earlier ++ (key, child) :: later)) :: after)))
      (isBranch : HasId branchKey branch)
      (isId : HasId key childId)
      (branchCondition : Before decodeChoice before branch)
      (condition : Before decode earlier childId) :
      Directly id value ⟨id, some branch⟩ [before.length, earlier.length] childId child

/-- The way down from an entry to one below it at any depth, the entry itself
included. -/
inductive Way : String → Value → List Turn → List Nat → String → Value → Prop
  | here {id : String} {value : Value} : Way id value [] [] id value
  | down {id childId lastId : String} {value child last : Value} {turn : Turn}
      {turns : List Turn} {step place : List Nat}
      (directly : Directly Before id value turn step childId child)
      (way : Way childId child turns place lastId last) :
      Way id value (turn :: turns) (step ++ place) lastId last

end

/-- The labels of all steps of a way. -/
def labels (turns : List Turn) : List String :=
  turns.flatMap Turn.labels

theorem wrapped_labels_cons (fault : Fault) (turn : Turn) (turns : List Turn) :
    fault.wrapped (labels (turn :: turns)) =
      (fault.wrapped (labels turns)).wrapped turn.labels := by
  rw [labels, List.flatMap_cons, Fault.wrapped_append]
  rfl

/-! ## Entries at fault -/

/-- What is wrong with nested content by itself, and not with an entry in it. -/
inductive ContentFault : Kind → Value → Fault → Prop
  | notMapping {kind : Kind} {value : Value}
      (noMapping : ∀ pairs, value ≠ .mapping pairs)
      (notNull : value ≠ .null) :
      ContentFault kind value (.bare (.notMapping "nested content"))
  | entryKey {before after : List (Value × Value)} {pair : Value × Value} {fault : Fault}
      (convertible : Convertible decode before)
      (offence : KeyOffence .content before pair fault) :
      ContentFault .trigger (.mapping (before ++ pair :: after)) fault
  | branchKey {before after : List (Value × Value)} {pair : Value × Value} {fault : Fault}
      (convertible : Convertible decodeChoice before)
      (offence : KeyOffence .choice before pair fault) :
      ContentFault .choice (.mapping (before ++ pair :: after)) fault
  | branchNotMapping {before after : List (Value × Value)} {key value : Value} {branch : String}
      (isBranch : HasId key branch)
      (reached : Reached decodeChoice before branch)
      (noMapping : ∀ pairs, value ≠ .mapping pairs)
      (notNull : value ≠ .null) :
      ContentFault .choice (.mapping (before ++ (key, value) :: after))
        (.bare (.notMapping (label "content for choice" branch)))
  | branchEntryKey {before after earlier later : List (Value × Value)} {pair : Value × Value}
      {key : Value} {branch : String} {fault : Fault}
      (isBranch : HasId key branch)
      (reached : Reached decodeChoice before branch)
      (convertible : Convertible decode earlier)
      (offence : KeyOffence .content earlier pair fault) :
      ContentFault .choice
        (.mapping (before ++ (key, .mapping (earlier ++ pair :: later)) :: after))
        (.context (label "choice" branch) fault)

/-- What is wrong with an entry itself, and not with one below it. -/
inductive EntryFault (id : String) : Value → Fault → Prop
  | notMapping {value : Value}
      (noMapping : ∀ pairs, value ≠ .mapping pairs) :
      EntryFault id value (.bare (.notMapping (itemLabel id)))
  | kind {pairs : List (Value × Value)} {fault : Fault}
      (noKind : kindOf id pairs = .error fault) :
      EntryFault id (.mapping pairs) fault
  | fields {pairs : List (Value × Value)} {kind : Kind} {fault : Fault}
      (isKind : kindOf id pairs = .ok kind)
      (noFields : ownEntry kind id pairs = .error fault) :
      EntryFault id (.mapping pairs) fault
  | content {value content : Value} {kind : Kind} {fault : Fault}
      (opens : Opens id value kind content)
      (contentFault : ContentFault kind content fault) :
      EntryFault id value (.context (itemLabel id) fault)

/-! ## One layer -/

section

variable {id childId lastId otherId : String} {value child last content other : Value} {kind : Kind}
  {turn otherTurn : Turn} {turns otherTurns : List Turn} {step place otherStep otherPlace : List Nat}
  {fault own : Fault}

/-- Behind the own fields only the nested content may be refused, and then under
the label of the entry. -/
theorem Opens.decode_eq_error_iff
    (opens : Opens id value kind content) :
    decode id value = .error fault ↔
      ∃ inner, decodeBlock kind content = .error inner ∧
        fault = .context (itemLabel id) inner := by
  obtain ⟨isKind, isOwn, nests, isContent⟩ := opens
  simp only [decode, isKind, isOwn, decodeContent_eq, nests, isContent, bind, Except.bind,
    if_true, Option.map_some]
  cases decodeBlock kind content <;> simp [pure, Except.pure, eq_comm]

theorem decodeBlock_trigger_eq_error_iff
    {pairs : List (Value × Value)} :
    decodeBlock .trigger (.mapping pairs) = .error fault ↔ decodeMap pairs = .error fault := by
  rw [decodeBlock, if_neg (by decide), bind_eq_error_iff, decodeMap]
  simp [pure, Except.pure]

theorem decodeBlock_choice_eq_error_iff
    {pairs : List (Value × Value)} :
    decodeBlock .choice (.mapping pairs) = .error fault ↔
      decodeChoices pairs [] Table.empty = .error fault := by
  rw [decodeBlock, if_pos rfl, bind_eq_error_iff]
  simp [pure, Except.pure]

theorem decodeChoice_eq_error_iff
    {branch : String} {pairs : List (Value × Value)} :
    decodeChoice branch (.mapping pairs) = .error fault ↔
      ∃ inner, decodeMap pairs = .error inner ∧ fault = .context (label "choice" branch) inner := by
  rw [decodeChoice, bind_eq_error_iff, within_eq_error_iff, decodeMap]
  simp [pure, Except.pure]

/-- There is one kind and one nested content of an entry. -/
theorem Opens.unique
    {otherKind : Kind} {otherContent : Value}
    (opens : Opens id value kind content)
    (otherOpens : Opens id value otherKind otherContent) :
    kind = otherKind ∧ content = otherContent := by
  obtain ⟨isKind, _, _, isContent⟩ := opens
  obtain ⟨isOther, _, _, isOtherContent⟩ := otherOpens
  rw [isKind, Except.ok.injEq] at isOther
  rw [isContent, Option.some.injEq] at isOtherContent
  exact ⟨isOther, isOtherContent⟩

/-- A branch with an entry that fails is refused. -/
theorem branch_fails
    {earlier later : List (Value × Value)} {key : Value}
    (branch : String)
    (isId : HasId key childId)
    (failed : decode childId child = .error own) :
    ∃ fault, decodeChoice branch (.mapping (earlier ++ (key, child) :: later)) = .error fault := by
  obtain ⟨inner, refused⟩ :=
    (decodeMap_converts (earlier ++ (key, child) :: later)).fails_of_value isId failed
  exact ⟨_, decodeChoice_eq_error_iff.mpr ⟨inner, refused, rfl⟩⟩

/-- An entry fails because of one directly below it that reading comes to. -/
theorem Directly.decode_eq_error
    (directly : Directly Reached id value turn step childId child)
    (failed : decode childId child = .error own) :
    decode id value = .error (own.wrapped turn.labels) := by
  cases directly with
  | trigger opens isId reached =>
      refine opens.decode_eq_error_iff.mpr ⟨own, ?_, rfl⟩
      exact decodeBlock_trigger_eq_error_iff.mpr
        ((decodeMap_converts _).eq_error_of_value reached.convertible isId reached.isNew failed)
  | @choice _ _ earlier later _ key _ branch _ opens isBranch isId branchReached reached =>
      have refused : decodeMap (earlier ++ (key, child) :: later) = .error own :=
        (decodeMap_converts _).eq_error_of_value reached.convertible isId reached.isNew failed
      have branchRefused :
          decodeChoice branch (.mapping (earlier ++ (key, child) :: later)) =
            .error (.context (label "choice" branch) own) :=
        decodeChoice_eq_error_iff.mpr ⟨own, refused, rfl⟩
      refine opens.decode_eq_error_iff.mpr ⟨.context (label "choice" branch) own, ?_, rfl⟩
      exact decodeBlock_choice_eq_error_iff.mpr
        ((decodeChoices_converts _).eq_error_of_value branchReached.convertible isBranch
          branchReached.isNew branchRefused)

/-- A fault in nested content is one of the content itself, or of an entry in
it. -/
theorem Opens.contentFault_or_directly
    (opens : Opens id value kind content)
    (refused : decodeBlock kind content = .error fault) :
    ContentFault kind content fault ∨
      ∃ turn step childId child own, Directly Reached id value turn step childId child ∧
        decode childId child = .error own ∧
        Fault.context (itemLabel id) fault = own.wrapped turn.labels := by
  have nests : kind.nests = true := by
    cases opens with
    | intro _ _ nests => exact nests
  cases content with
  | mapping pairs =>
      cases kind with
      | trigger =>
          obtain ⟨before, ⟨key, child⟩, after, rfl, convertible, offence, _⟩ :=
            (decodeMap_converts pairs).refused fault (decodeBlock_trigger_eq_error_iff.mp refused)
          rcases offence.key_or_value convertible with offence | ⟨childId, isId, reached, failed⟩
          · exact Or.inl (.entryKey convertible offence)
          · exact Or.inr ⟨_, _, _, _, _, .trigger opens isId reached, failed, rfl⟩
      | choice =>
          obtain ⟨before, ⟨branchKey, block⟩, after, rfl, convertible, offence, _⟩ :=
            (decodeChoices_converts pairs).refused fault
              (decodeBlock_choice_eq_error_iff.mp refused)
          rcases offence.key_or_value convertible with
            offence | ⟨branch, isBranch, branchReached, branchRefused⟩
          · exact Or.inl (.branchKey convertible offence)
          · cases block with
            | mapping items =>
                obtain ⟨inner, itemsRefused, rfl⟩ := decodeChoice_eq_error_iff.mp branchRefused
                obtain ⟨earlier, ⟨key, child⟩, later, rfl, itemsConvertible, offence, _⟩ :=
                  (decodeMap_converts items).refused inner itemsRefused
                rcases offence.key_or_value itemsConvertible with
                  offence | ⟨childId, isId, reached, failed⟩
                · exact Or.inl (.branchEntryKey isBranch branchReached itemsConvertible offence)
                · exact Or.inr ⟨_, _, _, _, _,
                    .choice opens isBranch isId branchReached reached, failed, rfl⟩
            | null => cases branchRefused
            | _ =>
                cases branchRefused
                exact Or.inl (.branchNotMapping isBranch branchReached (by simp) (by simp))
      | text | rectangle | multiline => cases nests
  | null => cases refused
  | _ =>
      cases refused
      exact Or.inl (.notMapping (by simp) (by simp))

/-- An entry that cannot be decoded is at fault itself or fails because of one
directly below it. -/
theorem entryFault_or_directly
    (failed : decode id value = .error fault) :
    EntryFault id value fault ∨
      ∃ turn step childId child own, Directly Reached id value turn step childId child ∧
        decode childId child = .error own ∧ fault = own.wrapped turn.labels := by
  cases value with
  | mapping pairs =>
      rw [decode] at failed
      rcases bind_eq_error_iff.mp failed with noKind | ⟨kind, isKind, failed⟩
      · exact Or.inl (.kind noKind)
      · rcases bind_eq_error_iff.mp failed with noFields | ⟨entry, isOwn, failed⟩
        · exact Or.inl (.fields isKind noFields)
        · rw [decodeContent_eq] at failed
          by_cases nests : kind.nests = true
          · cases isContent : Value.get? "content" pairs with
            | none => simp [nests, isContent, pure, Except.pure] at failed
            | some content =>
                have opens : Opens id (.mapping pairs) kind content :=
                  .intro isKind isOwn nests isContent
                simp only [nests, isContent, if_true, Option.map_some] at failed
                rcases bind_eq_error_iff.mp failed with refused | ⟨_, _, ⟨⟩⟩
                obtain ⟨inner, innerRefused, rfl⟩ := within_eq_error_iff.mp refused
                rcases opens.contentFault_or_directly innerRefused with
                  contentFault | ⟨turn, step, childId, child, own, directly, childFailed, same⟩
                · exact Or.inl (.content opens contentFault)
                · exact Or.inr ⟨turn, step, childId, child, own, directly, childFailed, same⟩
          · simp [nests, pure, Except.pure] at failed
  | _ =>
      cases failed
      exact Or.inl (.notMapping (by simp))

/-- An entry around one that fails, wherever this one stands, fails too. -/
theorem Directly.fails
    (directly : Directly Unconditional id value turn step childId child)
    (failed : decode childId child = .error own) :
    ∃ fault, decode id value = .error fault := by
  cases directly with
  | trigger opens isId =>
      obtain ⟨inner, refused⟩ := (decodeMap_converts _).fails_of_value isId failed
      exact ⟨_, opens.decode_eq_error_iff.mpr
        ⟨inner, decodeBlock_trigger_eq_error_iff.mpr refused, rfl⟩⟩
  | @choice _ _ earlier later _ _ _ branch _ opens isBranch isId =>
      obtain ⟨_, branchRefused⟩ := branch_fails branch isId failed
      obtain ⟨inner, refused⟩ := (decodeChoices_converts _).fails_of_value isBranch branchRefused
      exact ⟨_, opens.decode_eq_error_iff.mpr
        ⟨inner, decodeBlock_choice_eq_error_iff.mpr refused, rfl⟩⟩

/-- Of two entries directly below one, of which the first is reached and the
second fails, the second is the same one or everything below it comes later. -/
theorem Directly.first
    (directly : Directly Reached id value turn step childId child)
    (otherDirectly : Directly Unconditional id value otherTurn otherStep otherId other)
    (failed : decode otherId other = .error own) :
    (step = otherStep ∧ childId = otherId ∧ child = other) ∨
      ∀ place otherPlace,
        List.Lex (· < ·) (step ++ place) (otherStep ++ otherPlace) := by
  cases directly with
  | trigger opens isId reached =>
      cases otherDirectly with
      | trigger otherOpens isOther =>
          have sameItems := Value.mapping.inj (opens.unique otherOpens).2
          rcases reached.first isOther failed sameItems with less | ⟨rfl, ⟨⟩⟩
          · exact Or.inr fun _ _ => .rel less
          · exact Or.inl ⟨rfl, isId.unique isOther, rfl⟩
      | choice otherOpens => exact absurd (opens.unique otherOpens).1 (by decide)
  | choice opens isBranch isId branchReached reached =>
      cases otherDirectly with
      | trigger otherOpens => exact absurd (opens.unique otherOpens).1 (by decide)
      | choice otherOpens isOtherBranch isOther =>
          obtain ⟨inner, branchRefused⟩ := branch_fails _ isOther failed
          have sameBranches := Value.mapping.inj (opens.unique otherOpens).2
          rcases branchReached.first isOtherBranch branchRefused sameBranches with
            less | ⟨rfl, same⟩
          · exact Or.inr fun _ _ => .rel less
          · have sameItems := Value.mapping.inj (Prod.mk.inj same).2
            rcases reached.first isOther failed sameItems with less | ⟨rfl, ⟨⟩⟩
            · exact Or.inr fun _ _ => .cons (.rel less)
            · exact Or.inl ⟨rfl, isId.unique isOther, rfl⟩

/-! ## The whole way -/

/-- An entry fails because of one below it, at any depth, that reading comes
to. -/
theorem Way.decode_eq_error
    (way : Way Reached id value turns place lastId last)
    (failed : decode lastId last = .error own) :
    decode id value = .error (own.wrapped (labels turns)) := by
  induction way with
  | here => exact failed
  | down directly _ inductionHypothesis =>
      rw [wrapped_labels_cons]
      exact directly.decode_eq_error (inductionHypothesis failed)

/-- All entries around one that fails fail too. -/
theorem Way.fails
    (way : Way Unconditional id value turns place lastId last)
    (failed : decode lastId last = .error own) :
    ∃ fault, decode id value = .error fault := by
  induction way with
  | here => exact ⟨own, failed⟩
  | down directly _ inductionHypothesis =>
      obtain ⟨_, childFailed⟩ := inductionHypothesis failed
      exact directly.fails childFailed

/-- An entry that fails and is not around one that reading comes to stands
behind it. -/
theorem Way.first
    (way : Way Reached id value turns place lastId last)
    (otherWay : Way Unconditional id value otherTurns otherPlace otherId other)
    (failed : decode otherId other = .error own) :
    otherPlace <+: place ∨ List.Lex (· < ·) place otherPlace := by
  induction way generalizing otherTurns otherPlace with
  | here =>
      cases otherPlace with
      | nil => exact Or.inl List.nil_prefix
      | cons => exact Or.inr .nil
  | down directly _ inductionHypothesis =>
      cases otherWay with
      | here => exact Or.inl List.nil_prefix
      | down otherDirectly otherWay =>
          obtain ⟨_, otherFailed⟩ := otherWay.fails failed
          rcases directly.first otherDirectly otherFailed with ⟨rfl, rfl, rfl⟩ | later
          · rcases inductionHypothesis otherWay with around | behind
            · exact Or.inl ((List.prefix_append_right_inj _).mpr around)
            · exact Or.inr (behind.append_left _ _)
          · exact Or.inr (later _ _)

theorem sizeOf_lt_mapping
    {pairs : List (Value × Value)} {key value : Value}
    (member : (key, value) ∈ pairs) :
    sizeOf value < sizeOf (Value.mapping pairs) := by
  have inList := List.sizeOf_lt_of_mem member
  simp only [Prod.mk.sizeOf_spec, Value.mapping.sizeOf_spec] at inList ⊢
  omega

theorem Opens.smaller
    (opens : Opens id value kind content) :
    sizeOf content < sizeOf value := by
  obtain ⟨_, _, _, isContent⟩ := opens
  exact sizeOf_lt_mapping ((Value.perm_of_get? isContent).mem_iff.mpr (List.mem_cons_self ..))

theorem Directly.smaller
    (directly : Directly Reached id value turn step childId child) :
    sizeOf child < sizeOf value := by
  cases directly with
  | @trigger before after key _ _ opens =>
      have inContent := sizeOf_lt_mapping
        (List.mem_append_right before (List.mem_cons_self (a := (key, child)) (l := after)))
      exact Nat.lt_trans inContent opens.smaller
  | @choice before after earlier later branchKey key _ _ _ opens =>
      have inBranch := sizeOf_lt_mapping
        (List.mem_append_right earlier (List.mem_cons_self (a := (key, child)) (l := later)))
      have inContent := sizeOf_lt_mapping
        (List.mem_append_right before (List.mem_cons_self (a := (branchKey,
          Value.mapping (earlier ++ (key, child) :: later))) (l := after)))
      exact Nat.lt_trans inBranch (Nat.lt_trans inContent opens.smaller)

end

/-- Every failure is that of an entry at fault, in the labels of the way to
it. -/
theorem exists_culprit
    {id : String} {value : Value} {fault : Fault}
    (failed : decode id value = .error fault) :
    ∃ turns place culpritId culprit own,
      Way Reached id value turns place culpritId culprit ∧
      decode culpritId culprit = .error own ∧
      EntryFault culpritId culprit own ∧
      fault = own.wrapped (labels turns) := by
  rcases entryFault_or_directly failed with
    entryFault | ⟨turn, step, childId, child, inner, directly, childFailed, rfl⟩
  · exact ⟨[], [], id, value, fault, .here, failed, entryFault, rfl⟩
  · have _smaller := directly.smaller
    obtain ⟨turns, place, culpritId, culprit, own, way, culpritFailed, entryFault, rfl⟩ :=
      exists_culprit childFailed
    exact ⟨turn :: turns, step ++ place, culpritId, culprit, own, .down directly way,
      culpritFailed, entryFault, (wrapped_labels_cons ..).symm⟩
termination_by sizeOf value

/-! ## Failures of nested entries -/

/-- An entry below another one that reading comes to and that fails makes the
outer one fail, with its own fault at the root, in the labels of the way down
and then in its own contexts.  Every failure comes from an entry at fault in
this way, and of all other entries that fail those that are not around it stand
behind it. -/
theorem nested_failure
    (id : String) (value : Value) :
    (∀ turns place nestedId nested own,
      Way Reached id value turns place nestedId nested →
      decode nestedId nested = .error own →
      ∃ fault, decode id value = .error fault ∧ fault.root = own.root ∧
        fault.contexts = labels turns ++ own.contexts) ∧
    ∀ fault, decode id value = .error fault →
      ∃ turns place nestedId nested own,
        Way Reached id value turns place nestedId nested ∧
        decode nestedId nested = .error own ∧
        EntryFault nestedId nested own ∧
        fault.root = own.root ∧
        fault.contexts = labels turns ++ own.contexts ∧
        ∀ otherTurns otherPlace otherId other otherFault,
          Way Unconditional id value otherTurns otherPlace otherId other →
          decode otherId other = .error otherFault →
          otherPlace <+: place ∨ List.Lex (· < ·) place otherPlace := by
  constructor
  · intro turns place nestedId nested own way failed
    refine ⟨own.wrapped (labels turns), way.decode_eq_error failed, ?_, ?_⟩
    · exact Fault.root_wrapped ..
    · exact Fault.contexts_wrapped ..
  · intro fault failed
    obtain ⟨turns, place, nestedId, nested, own, way, nestedFailed, entryFault, rfl⟩ :=
      exists_culprit failed
    refine ⟨turns, place, nestedId, nested, own, way, nestedFailed, entryFault, ?_, ?_, ?_⟩
    · exact Fault.root_wrapped ..
    · exact Fault.contexts_wrapped ..
    · intro _ _ _ _ _ otherWay otherFailed
      exact way.first otherWay otherFailed

/-- A seal with an empty branch and a logo of some shape in another one. -/
def crest (shape : String) : Value :=
  .mapping
    [(.string "type", .string "choice"),
      (.string "content", .mapping
        [(.string "Land", .null),
          (.string "Sea", .mapping
            [(.string "logo", .mapping [(.string "type", .string shape)])])])]

/-- A banner with a seal in it. -/
def banner (shape : String) : Value :=
  .mapping
    [(.string "type", .string "trigger"),
      (.string "trigger", .string "winner"),
      (.string "content", .mapping [(.string "seal", crest shape)])]

theorem nested_failure_banner :
    ∃ fault, decode "banner" (banner "circle") = .error fault ∧
      fault.root = .unknownType .content "circle" ∧
      fault.contexts = ["content entry 'banner'", "content entry 'seal'", "choice 'Sea'"] ∧
      ∃ turns place nestedId nested own,
        Way Reached "banner" (banner "circle") turns place nestedId nested ∧
        decode nestedId nested = .error own ∧
        EntryFault nestedId nested own ∧
        fault.contexts = labels turns ++ own.contexts := by
  have landRead : Record.ReadAs decodeChoice (.string "Land", .null) ("Land", []) :=
    ⟨.text "Land", rfl⟩
  have convertible : Convertible decodeChoice [(.string "Land", .null)] :=
    Record.convertible_nil.concat landRead (by simp)
  have isNew : ∀ earlier ∈ [(Value.string "Land", Value.null)], ¬ HasId earlier.1 "Sea" := by
    simp only [List.mem_singleton, forall_eq]
    intro isId
    exact absurd (isId.unique (.text "Land")) (by decide)
  have toSeal : Directly Reached "banner" (banner "circle") ⟨"banner", none⟩ [0] "seal"
      (crest "circle") :=
    @Directly.trigger @Reached "banner" (banner "circle") [] [] _ _ _
      (.intro rfl rfl rfl rfl) (.text "seal") ⟨Record.convertible_nil, by simp⟩
  have toLogo : Directly Reached "seal" (crest "circle") ⟨"seal", some "Sea"⟩ [1, 0] "logo"
      (.mapping [(.string "type", .string "circle")]) :=
    @Directly.choice @Reached "seal" (crest "circle") [_] [] [] [] _ _ _ _ _
      (.intro rfl rfl rfl rfl) (.text "Sea") (.text "logo") ⟨convertible, isNew⟩
      ⟨Record.convertible_nil, by simp⟩
  have way : Way Reached "banner" (banner "circle")
      [⟨"banner", none⟩, ⟨"seal", some "Sea"⟩] [0, 1, 0] "logo"
      (.mapping [(.string "type", .string "circle")]) :=
    .down toSeal (.down toLogo .here)
  obtain ⟨upward, downward⟩ := nested_failure "banner" (banner "circle")
  obtain ⟨fault, failed, root, contexts⟩ :=
    upward _ _ _ _ (.unknownType .content "circle") way rfl
  obtain ⟨turns, place, nestedId, nested, own, found, nestedFailed, entryFault, _, same, _⟩ :=
    downward fault failed
  exact ⟨fault, failed, root, contexts, turns, place, nestedId, nested, own, found, nestedFailed,
    entryFault, same⟩

end Content

end Chronicle
