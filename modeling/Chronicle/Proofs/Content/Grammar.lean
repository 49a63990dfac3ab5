import Chronicle.Proofs.Content.Conversion
import Chronicle.Proofs.Content.Decoding
import Chronicle.Proofs.Content.Field
import Chronicle.Proofs.Yaml.Mapping

/-!
# The grammar of entries

A value states an entry if it is a mapping with a type, with fields of that
type, and for triggers and choices with nested content.  One layer of the
grammar is described over what the nested values are read as.  Decoding is a
solution of this description, and the only one, as nested values are smaller.
-/

namespace Chronicle.Content

open Yaml (Value)
open Record (Arranged HasId ReadAs)

/-! ## One layer -/

section

variable (Reads : String → Value → Entry → Prop)

/-- Nothing, or entries under the IDs of their keys. -/
inductive EntriesOf : Value → List (String × Entry) → Prop
  | null : EntriesOf .null []
  | mapping {pairs : List (Value × Value)} {items content : List (String × Entry)}
      (ids : List.Forall₂ (fun pair item => HasId pair.1 item.1) pairs items)
      (each : List.Forall₂ (fun pair item => Reads item.1 pair.2 item.2) pairs items)
      (arranged : Arranged items content) :
      EntriesOf (.mapping pairs) content

/-- Entries in a trigger, and entries under every branch in a choice. -/
inductive BlockOf : Kind → Value → Block → Prop
  | entries {value : Value} {content : List (String × Entry)}
      (entries : EntriesOf Reads value content) :
      BlockOf .trigger value (.entries content)
  | noChoices : BlockOf .choice .null (.choices [])
  | choices {pairs : List (Value × Value)}
      {items content : List (String × List (String × Entry))}
      (ids : List.Forall₂ (fun pair item => HasId pair.1 item.1) pairs items)
      (each : List.Forall₂ (fun pair item => EntriesOf Reads pair.2 item.2) pairs items)
      (arranged : Arranged items content) :
      BlockOf .choice (.mapping pairs) (.choices content)

/-- The pairs, in any order, are the type, the fields that are given, and at
most one pair with nested content. -/
inductive EntryOf : Value → String → Entry → Prop
  | plain {id : String} {kind : Kind} {pairs own : List (Value × Value)} {entry : Entry}
      (parts : pairs.Perm ((.string "type", .string kind.tag) :: own))
      (isOwn : Own kind id own entry)
      (empty : entry.block = kind.emptyBlock) :
      EntryOf (.mapping pairs) id entry
  | nesting {id : String} {kind : Kind} {pairs own : List (Value × Value)} {entry : Entry}
      {value : Value} {block : Block}
      (parts : pairs.Perm
        ((.string "type", .string kind.tag) :: (.string "content", value) :: own))
      (isOwn : Own kind id own entry)
      (isBlock : BlockOf Reads kind value block)
      (nested : entry.block = some block) :
      EntryOf (.mapping pairs) id entry

end

/-- The entry that a value states under an ID. -/
inductive States : String → Value → Entry → Prop
  | intro {id : String} {value : Value} {entry : Entry}
      (entryOf : EntryOf States value id entry) :
      States id value entry

def Decodes (id : String) (value : Value) (entry : Entry) : Prop :=
  decode id value = .ok entry

/-! ## Nested content -/

theorem decodeChoice_eq_ok_iff
    {choice : String} {value : Value} {content : List (String × Entry)} :
    decodeChoice choice value = .ok content ↔ EntriesOf Decodes value content := by
  constructor
  · intro decoded
    cases value with
    | mapping pairs =>
        rw [decodeChoice, bind_eq_ok_iff] at decoded
        obtain ⟨table, isTable, decoded⟩ := decoded
        cases decoded
        obtain ⟨items, all, arranged⟩ := (decodeMap_converts pairs).entries_iff.mp
          ⟨table, within_eq_ok_iff.mp isTable, rfl⟩
        obtain ⟨ids, each⟩ := Record.forall₂_readAs_iff.mp all
        exact .mapping ids each arranged
    | null =>
        cases decoded
        exact .null
    | _ => cases decoded
  · intro entriesOf
    cases entriesOf with
    | null => rfl
    | @mapping pairs items _ ids each arranged =>
        obtain ⟨table, isTable, rfl⟩ := (decodeMap_converts pairs).entries_iff.mpr
          ⟨items, Record.forall₂_readAs_iff.mpr ⟨ids, each⟩, arranged⟩
        rw [decodeChoice, bind_eq_ok_iff]
        exact ⟨table, within_eq_ok_iff.mpr isTable, rfl⟩

theorem decodeBlock_trigger_eq_ok_iff
    {value : Value} {block : Block} :
    decodeBlock .trigger value = .ok block ↔ BlockOf Decodes .trigger value block := by
  have alike : decodeBlock .trigger value = .ok block ↔
      ∃ content, decodeChoice "" value = .ok content ∧ block = .entries content := by
    cases value with
    | mapping pairs =>
        simp only [decodeBlock, decodeChoice, reduceCtorEq, if_false, bind_eq_ok_iff,
          within_eq_ok_iff]
        constructor
        · rintro ⟨table, isTable, made⟩
          cases made
          exact ⟨_, ⟨table, isTable, rfl⟩, rfl⟩
        · rintro ⟨_, ⟨table, isTable, made⟩, rfl⟩
          cases made
          exact ⟨table, isTable, rfl⟩
    | null => simp [decodeBlock, decodeChoice, eq_comm]
    | _ => simp [decodeBlock, decodeChoice]
  rw [alike]
  constructor
  · rintro ⟨content, decoded, rfl⟩
    exact .entries (decodeChoice_eq_ok_iff.mp decoded)
  · rintro ⟨entries⟩
    exact ⟨_, decodeChoice_eq_ok_iff.mpr entries, rfl⟩

theorem decodeBlock_choice_eq_ok_iff
    {value : Value} {block : Block} :
    decodeBlock .choice value = .ok block ↔ BlockOf Decodes .choice value block := by
  constructor
  · intro decoded
    cases value with
    | mapping pairs =>
        rw [decodeBlock, if_pos rfl, bind_eq_ok_iff] at decoded
        obtain ⟨table, isTable, decoded⟩ := decoded
        cases decoded
        obtain ⟨items, all, arranged⟩ := (decodeChoices_converts pairs).entries_iff.mp
          ⟨table, isTable, rfl⟩
        obtain ⟨ids, each⟩ := Record.forall₂_readAs_iff.mp all
        exact .choices ids (each.imp fun _ _ => decodeChoice_eq_ok_iff.mp) arranged
    | null =>
        cases decoded
        exact .noChoices
    | _ => cases decoded
  · intro blockOf
    cases blockOf with
    | noChoices => rfl
    | @choices pairs items _ ids each arranged =>
        have all : List.Forall₂ (ReadAs decodeChoice) pairs items :=
          Record.forall₂_readAs_iff.mpr ⟨ids, each.imp fun _ _ => decodeChoice_eq_ok_iff.mpr⟩
        obtain ⟨table, isTable, rfl⟩ :=
          (decodeChoices_converts pairs).entries_iff.mpr ⟨items, all, arranged⟩
        rw [decodeBlock, if_pos rfl, bind_eq_ok_iff]
        exact ⟨table, isTable, rfl⟩

theorem decodeBlock_eq_ok_iff
    {kind : Kind} {value : Value} {block : Block}
    (nests : kind.nests = true) :
    decodeBlock kind value = .ok block ↔ BlockOf Decodes kind value block := by
  cases kind with
  | trigger => exact decodeBlock_trigger_eq_ok_iff
  | choice => exact decodeBlock_choice_eq_ok_iff
  | text | rectangle | multiline => cases nests

theorem BlockOf.nests
    {Reads : String → Value → Entry → Prop} {kind : Kind} {value : Value} {block : Block}
    (blockOf : BlockOf Reads kind value block) :
    kind.nests = true := by
  cases blockOf <;> rfl

/-- Nested content takes its place in an entry of the kind. -/
theorem BlockOf.block_withBlock
    {Reads : String → Value → Entry → Prop} {kind : Kind} {value : Value} {block : Block}
    {entry : Entry}
    (blockOf : BlockOf Reads kind value block)
    (ofKind : entry.kind = kind) :
    (entry.withBlock block).block = some block := by
  cases blockOf <;> cases entry <;> first | rfl | cases ofKind

/-! ## The pairs of an entry -/

theorem ofTag?_eq_some_iff
    {tag : String} {kind : Kind} :
    Kind.ofTag? tag = some kind ↔ tag = kind.tag := by
  constructor
  · intro found
    rw [Kind.ofTag?] at found
    have same := List.find?_some found
    exact (beq_iff_eq.mp same).symm
  · rintro rfl
    exact Kind.ofTag?_tag kind

theorem kindOf_eq_ok_iff
    {id : String} {pairs : List (Value × Value)} {kind : Kind} :
    kindOf id pairs = .ok kind ↔ Value.get? "type" pairs = some (.string kind.tag) := by
  have notEmpty : kind.tag ≠ "" := by
    cases kind <;> decide
  constructor
  · intro isKind
    rw [kindOf] at isKind
    split at isKind
    · cases isKind
    · cases isKind
    · rename_i tag isTag
      split at isKind
      · rename_i found
        cases isKind
        rw [← ofTag?_eq_some_iff.mp found]
        exact (Yaml.Shape.typeField_eq_text_iff.mp isTag).1
      · cases isKind
  · intro found
    have isTag : Yaml.Shape.typeField pairs = .text kind.tag :=
      Yaml.Shape.typeField_eq_text_iff.mpr ⟨found, notEmpty⟩
    simp only [kindOf, isTag, Kind.ofTag?_tag]

theorem decodeContent_eq (kind : Kind) (pairs : List (Value × Value)) :
    decodeContent kind pairs =
      if kind.nests = true then (Value.get? "content" pairs).map (decodeBlock kind) else none := by
  induction pairs with
  | nil => simp [decodeContent, Value.get?]
  | cons pair rest inductionHypothesis =>
      obtain ⟨key, value⟩ := pair
      have isContent : isContentKey key = key.same (.string "content") := by
        cases key <;> rfl
      rw [decodeContent, isContent, inductionHypothesis, Value.get?, Value.get?, List.find?_cons]
      cases kind.nests <;> cases key.same (.string "content") <;> rfl

section

variable {id : String} {kind : Kind} {pairs own : List (Value × Value)} {value : Value}
  {entry : Entry}

theorem parts_of_plain
    (parts : pairs.Perm ((.string "type", .string kind.tag) :: own))
    (others : ∀ pair ∈ own, pair.1 ≠ .string "type" ∧ pair.1 ≠ .string "content") :
    kindOf id pairs = .ok kind ∧ (ownPairs kind pairs).Perm own ∧
      decodeContent kind pairs = none := by
  obtain ⟨isType, untyped⟩ := Value.get?_of_perm parts fun pair member => (others pair member).1
  have noContent : ∀ pair ∈ pairs, pair.1 ≠ .string "content" := by
    intro pair member
    rcases List.mem_cons.mp (parts.mem_iff.mp member) with rfl | inOwn
    · simp
    · exact (others pair inOwn).2
  refine ⟨kindOf_eq_ok_iff.mpr isType, ?_, ?_⟩
  · rw [ownPairs]
    split
    · rw [Value.erase_of_absent fun pair member => (others pair (untyped.mem_iff.mp member)).2]
      exact untyped
    · exact untyped
  · rw [decodeContent_eq, Value.get?_eq_none_iff.mpr noContent]
    split <;> rfl

theorem parts_of_nesting
    (nests : kind.nests = true)
    (parts : pairs.Perm
      ((.string "type", .string kind.tag) :: (.string "content", value) :: own))
    (others : ∀ pair ∈ own, pair.1 ≠ .string "type" ∧ pair.1 ≠ .string "content") :
    kindOf id pairs = .ok kind ∧ (ownPairs kind pairs).Perm own ∧
      decodeContent kind pairs = some (decodeBlock kind value) := by
  have noType : ∀ pair ∈ (.string "content", value) :: own, pair.1 ≠ .string "type" := by
    rw [List.forall_mem_cons]
    exact ⟨by simp, fun pair member => (others pair member).1⟩
  have noContent : ∀ pair ∈ (.string "type", .string kind.tag) :: own,
      pair.1 ≠ .string "content" := by
    rw [List.forall_mem_cons]
    exact ⟨by simp, fun pair member => (others pair member).2⟩
  obtain ⟨isType, untyped⟩ := Value.get?_of_perm parts noType
  obtain ⟨_, rest⟩ := Value.get?_of_perm untyped fun pair member => (others pair member).2
  obtain ⟨isContent, _⟩ := Value.get?_of_perm (parts.trans (List.Perm.swap ..)) noContent
  refine ⟨kindOf_eq_ok_iff.mpr isType, ?_, ?_⟩
  · rw [ownPairs]
    simpa only [nests, if_true] using rest
  · rw [decodeContent_eq, isContent, if_pos nests]
    rfl

/-- Own fields that are read leave no other place for the type and the
content. -/
theorem parts_of_kindOf
    (isKind : kindOf id pairs = .ok kind)
    (others : ∀ pair ∈ ownPairs kind pairs,
      pair.1 ≠ .string "type" ∧ pair.1 ≠ .string "content") :
    (pairs.Perm ((.string "type", .string kind.tag) :: ownPairs kind pairs) ∧
        decodeContent kind pairs = none) ∨
      ∃ value, kind.nests = true ∧
        pairs.Perm ((.string "type", .string kind.tag) :: (.string "content", value) ::
          ownPairs kind pairs) ∧
        decodeContent kind pairs = some (decodeBlock kind value) := by
  have typed := Value.perm_of_get? (kindOf_eq_ok_iff.mp isKind)
  rw [decodeContent_eq]
  by_cases nests : kind.nests = true
  · have split : ownPairs kind pairs = Value.erase "content" (Value.erase "type" pairs) := by
      rw [ownPairs]
      simp only [nests, if_true]
    cases found : Value.get? "content" (Value.erase "type" pairs) with
    | none =>
        have absent := Value.get?_eq_none_iff.mp found
        have noContent : ∀ pair ∈ pairs, pair.1 ≠ .string "content" := by
          intro pair member
          rcases List.mem_cons.mp (typed.mem_iff.mp member) with rfl | inRest
          · simp
          · exact absent pair inRest
        rw [split, Value.erase_of_absent absent, Value.get?_eq_none_iff.mpr noContent, if_pos nests]
        exact Or.inl ⟨typed, rfl⟩
    | some value =>
        -- Taking out the type may change which pair comes first, but only one holds content.
        have parts := typed.trans ((Value.perm_of_get? found).cons _)
        rw [← split] at parts
        obtain ⟨_, _, isContent⟩ := @parts_of_nesting id kind pairs _ value nests parts others
        rw [decodeContent_eq] at isContent
        exact Or.inr ⟨value, nests, parts, isContent⟩
  · have split : ownPairs kind pairs = Value.erase "type" pairs := by
      rw [ownPairs]
      simp only [nests, Bool.false_eq_true, if_false]
    rw [split, if_neg nests]
    exact Or.inl ⟨typed, rfl⟩

/-- Decoding follows the grammar, layer by layer. -/
theorem decodes_iff_entryOf
    {value : Value} :
    Decodes id value entry ↔ EntryOf Decodes value id entry := by
  rw [Decodes, decode_eq_ok_iff]
  constructor
  · rintro ⟨pairs, kind, bare, rfl, isKind, read, content⟩
    obtain ⟨isOwn, empty⟩ := ownEntry_eq_ok_iff.mp read
    rcases parts_of_kindOf isKind isOwn.other_keys with
      ⟨parts, noContent⟩ | ⟨value, nests, parts, hasContent⟩
    · rcases content with ⟨_, rfl⟩ | ⟨block, isBlock, _⟩
      · exact .plain parts isOwn empty
      · rw [noContent] at isBlock
        cases isBlock
    · rcases content with ⟨none, _⟩ | ⟨block, isBlock, rfl⟩
      · rw [hasContent] at none
        cases none
      · rw [hasContent, Option.some.injEq] at isBlock
        have blockOf := (decodeBlock_eq_ok_iff nests).mp isBlock
        exact .nesting parts
          (isOwn.congr (kind_withBlock ..) (id_withBlock ..) (draft_withBlock ..)) blockOf
          (blockOf.block_withBlock isOwn.ofKind)
  · intro entryOf
    cases entryOf with
    | @plain _ kind pairs own _ parts isOwn empty =>
        obtain ⟨isKind, isRest, noContent⟩ := parts_of_plain parts isOwn.other_keys
        have read := ownEntry_eq_ok_iff.mpr ⟨isOwn.perm isRest.symm, empty⟩
        exact ⟨pairs, kind, entry, rfl, isKind, read, Or.inl ⟨noContent, rfl⟩⟩
    | @nesting _ kind pairs own _ value block parts isOwn isBlock nested =>
        obtain ⟨isKind, isRest, hasContent⟩ :=
          parts_of_nesting isBlock.nests parts isOwn.other_keys
        have ofKind : (entry.draft.entry kind id).kind = entry.kind :=
          (kind_entry ..).trans isOwn.ofKind.symm
        have ofId : (entry.draft.entry kind id).id = entry.id :=
          (id_entry ..).trans isOwn.ofId.symm
        have ofDraft : (entry.draft.entry kind id).draft = entry.draft := by
          rw [← isOwn.ofKind, ← isOwn.ofId, draft_draft_entry]
        have read := ownEntry_eq_ok_iff.mpr
          ⟨(isOwn.congr ofKind ofId ofDraft).perm isRest.symm, block_entry ..⟩
        refine ⟨pairs, kind, _, rfl, isKind, read, Or.inr ⟨block, ?_, ?_⟩⟩
        · rw [hasContent, (decodeBlock_eq_ok_iff isBlock.nests).mpr isBlock]
        · apply Entry.ext_parts
          · rw [kind_withBlock, ofKind]
          · rw [id_withBlock, ofId]
          · rw [draft_withBlock, ofDraft]
          · rw [nested, isBlock.block_withBlock (kind_entry ..)]

end

/-! ## All layers -/

section

variable {Reads Others : String → Value → Entry → Prop}

/-- What is read from a value one way is read the other way, whatever the value
stands for. -/
structure Implied (Reads Others : String → Value → Entry → Prop) (value : Value) : Prop where
  entry : ∀ id entry, Reads id value entry → Others id value entry
  entries : ∀ content, EntriesOf Reads value content → EntriesOf Others value content
  block : ∀ kind block, BlockOf Reads kind value block → BlockOf Others kind value block

variable {pairs : List (Value × Value)} (inside : ∀ pair ∈ pairs, Implied Reads Others pair.2)

include inside

theorem EntriesOf.implied
    {content : List (String × Entry)}
    (entriesOf : EntriesOf Reads (.mapping pairs) content) :
    EntriesOf Others (.mapping pairs) content := by
  obtain _ | ⟨ids, each, arranged⟩ := entriesOf
  refine .mapping ids (Paired.imp_of_mem ?_ each) arranged
  intro pair member item
  exact (inside pair member).entry item.1 item.2

theorem BlockOf.implied
    {kind : Kind} {block : Block}
    (blockOf : BlockOf Reads kind (.mapping pairs) block) :
    BlockOf Others kind (.mapping pairs) block := by
  cases blockOf with
  | entries entriesOf => exact .entries (entriesOf.implied inside)
  | choices ids each arranged =>
      refine .choices ids (Paired.imp_of_mem ?_ each) arranged
      intro pair member item
      exact (inside pair member).entries item.2

theorem EntryOf.implied
    {id : String} {entry : Entry}
    (entryOf : EntryOf Reads (.mapping pairs) id entry) :
    EntryOf Others (.mapping pairs) id entry := by
  cases entryOf with
  | plain parts isOwn empty => exact .plain parts isOwn empty
  | @nesting _ kind _ own _ value block parts isOwn isBlock nested =>
      have inPairs : (.string "content", value) ∈ pairs := parts.mem_iff.mpr (by simp)
      exact .nesting parts isOwn ((inside _ inPairs).block kind block isBlock) nested

end

/-- Two readings that follow the grammar agree, since every nested value is
smaller than the one around it. -/
theorem implied_of_layers
    {Reads Others : String → Value → Entry → Prop}
    (opened : ∀ id value entry, Reads id value entry → EntryOf Reads value id entry)
    (closed : ∀ id value entry, EntryOf Others value id entry → Others id value entry)
    (value : Value) :
    Implied Reads Others value := by
  induction value using Value.induction_on_pairs with
  | mapping pairs inductionHypothesis =>
      refine ⟨?_, ?_, ?_⟩
      · intro id entry reads
        exact closed id _ entry ((opened id _ entry reads).implied inductionHypothesis)
      · intro content entriesOf
        exact entriesOf.implied inductionHypothesis
      · intro kind block blockOf
        exact blockOf.implied inductionHypothesis
  | other value notMapping =>
      have entries : ∀ content, EntriesOf Reads value content → EntriesOf Others value content := by
        intro content entriesOf
        cases entriesOf with
        | null => exact .null
        | mapping => exact absurd rfl (notMapping _)
      refine ⟨?_, entries, ?_⟩
      · intro id entry reads
        cases opened id value entry reads <;> exact absurd rfl (notMapping _)
      · intro kind block blockOf
        cases blockOf with
        | entries entriesOf => exact .entries (entries _ entriesOf)
        | noChoices => exact .noChoices
        | choices => exact absurd rfl (notMapping _)

/-- A value is decoded to the entry that it states, and to nothing else. -/
theorem decodes_iff_states
    {id : String} {value : Value} {entry : Entry} :
    Decodes id value entry ↔ States id value entry := by
  constructor
  · exact (implied_of_layers (fun _ _ _ => decodes_iff_entryOf.mp) (fun _ _ _ => .intro) value).entry
      id entry
  · refine (implied_of_layers ?_ (fun _ _ _ => decodes_iff_entryOf.mpr) value).entry id entry
    rintro id value entry ⟨entryOf⟩
    exact entryOf

end Chronicle.Content
