import Chronicle.Proofs.Content.Grammar
import Chronicle.Proofs.Inheritance
import Chronicle.Proofs.Parameter.Conversion

/-!
# Everything under its own ID

The entries of a mapping, the blocks of a choice and the parameters of a
template are converted in the same way, one by one and none lost.  A trigger
holds the entries, and a choice the blocks, that its nested content is converted
to.  In whatever is built from them by nesting, filling and inheritance, an
entry stands under its own ID.
-/

namespace Chronicle

open Yaml (Value)
open Content (Entry)
open Record (Converts)

/-! ## Entries -/

namespace Content.Entry

/-- The entry has the child directly in its content, under the key. -/
inductive Stores : Entry → String → Entry → Prop
  | entry {heading : Heading} {parameter : Option String} {content : List (String × Entry)}
      {key : String} {child : Entry}
      (inContent : (key, child) ∈ content) :
      Stores (.trigger heading parameter content) key child
  | block {heading : Heading} {parameter : Option String}
      {content : List (String × List (String × Entry))} {branch : String}
      {block : List (String × Entry)} {key : String} {child : Entry}
      (inContent : (branch, block) ∈ content)
      (inBlock : (key, child) ∈ block) :
      Stores (.choice heading parameter content) key child

theorem Orderly.id_of_stores
    {entry child : Entry} {key : String}
    (orderly : entry.Orderly)
    (stores : Stores entry key child) :
    child.id = key := by
  cases stores with
  | entry inContent =>
      cases orderly with
      | trigger indexed _ => exact indexed.own _ inContent
  | block inContent inBlock =>
      cases orderly with
      | choice _ indexed _ => exact (indexed _ inContent).own _ inBlock

/-- At every depth, children stand under their own IDs. -/
def OwnIds (entry : Entry) : Prop :=
  ∀ keys ids below, Below entry keys ids below →
    ∀ key child, Stores below key child → child.id = key

theorem Orderly.ownIds
    {entry : Entry}
    (orderly : entry.Orderly) :
    entry.OwnIds := by
  intro keys ids below isBelow key child stores
  exact (orderly.of_below isBelow).id_of_stores stores

end Content.Entry

/-! ## Nested content -/

namespace Content

/-- The pairs of nested content.  Null has none, and neither has content that is
not given. -/
inductive Lists : Option Value → List (Value × Value) → Prop
  | absent : Lists none []
  | null : Lists (some .null) []
  | mapping (pairs : List (Value × Value)) : Lists (some (.mapping pairs)) pairs

section

variable {id : String} {kind : Kind} {pairs nested : List (Value × Value)} {own : Entry}

theorem exists_draft_of_ownEntry
    (read : ownEntry kind id pairs = .ok own) :
    ∃ draft : Draft, own = draft.entry kind id := by
  rw [ownEntry] at read
  split at read
  · cases read
    exact ⟨_, rfl⟩
  · cases read

/-- Once its own fields are read, only nested content can make an entry fail. -/
theorem decode_of_ownEntry
    (isKind : kindOf id pairs = .ok kind)
    (read : ownEntry kind id pairs = .ok own) :
    decode id (.mapping pairs) =
      match decodeContent kind pairs with
      | none => .ok own
      | some block => within (itemLabel id) block >>= fun block => .ok (own.withBlock block) := by
  rw [decode, isKind]
  simp only [bind, Except.bind, read]
  rfl

/-- Content that is not given, or null, nests what an empty mapping nests. -/
theorem decode_of_lists
    (nests : kind.nests = true)
    (isKind : kindOf id pairs = .ok kind)
    (read : ownEntry kind id pairs = .ok own)
    (lists : Lists (Value.get? "content" pairs) nested) :
    decode id (.mapping pairs) =
      within (itemLabel id) (decodeBlock kind (.mapping nested)) >>= fun block =>
        .ok (own.withBlock block) := by
  obtain ⟨draft, rfl⟩ := exists_draft_of_ownEntry read
  rw [decode_of_ownEntry isKind read, decodeContent_eq, if_pos nests]
  generalize Value.get? "content" pairs = given at lists
  cases lists with
  | absent => cases kind <;> cases nests <;> rfl
  | null => cases kind <;> cases nests <;> rfl
  | mapping nested => rfl

theorem decode_trigger
    (isTrigger : kindOf id pairs = .ok .trigger)
    (read : ownEntry .trigger id pairs = .ok own)
    (lists : Lists (Value.get? "content" pairs) nested) :
    decode id (.mapping pairs) =
      within (itemLabel id) (decodeMap nested) >>= fun entries =>
        .ok (.trigger own.heading own.parameter entries.entries) := by
  obtain ⟨draft, rfl⟩ := exists_draft_of_ownEntry read
  rw [decode_of_lists rfl isTrigger read lists, decodeBlock, if_neg (by decide), ← decodeMap]
  cases decodeMap nested <;> rfl

theorem decode_choice
    (isChoice : kindOf id pairs = .ok .choice)
    (read : ownEntry .choice id pairs = .ok own)
    (lists : Lists (Value.get? "content" pairs) nested) :
    decode id (.mapping pairs) =
      within (itemLabel id) (decodeChoices nested [] Table.empty) >>= fun blocks =>
        .ok (.choice own.heading own.parameter blocks.entries) := by
  obtain ⟨draft, rfl⟩ := exists_draft_of_ownEntry read
  rw [decode_of_lists rfl isChoice read lists, decodeBlock, if_pos rfl]
  cases decodeChoices nested [] Table.empty <;> rfl

theorem decodeChoice_of_lists
    {value : Value}
    (choice : String)
    (lists : Lists (some value) nested) :
    decodeChoice choice value =
      within (label "choice" choice) (decodeMap nested) >>= fun entries =>
        .ok entries.entries := by
  cases lists <;> rfl

end

end Content

/-! ## Templates -/

namespace Template

theorem Reachable.filedPresets
    {template : Template}
    (reachable : template.Reachable) :
    template.presets.Forall Content.Filed := by
  induction reachable with
  | ofRecord made => exact Content.filed_of_decodeMap (ofRecord_eq_ok_iff.mp made).presets
  | inherit _ ancestorReachable made filed ancestorFiled =>
      obtain ⟨_, _, rfl⟩ := (inherit_eq_ok_iff ancestorReachable.parameters.keyed).mp made
      exact filed.union ancestorFiled

theorem contentIds_eq_keys
    {template : Template} {withAliases : Bool}
    (filed : template.content.Forall Content.Filed) :
    template.contentIds withAliases = template.content.keys := by
  have all : ∀ entry ∈ template.content.entries,
      (withAliases || entry.1 == entry.2.id) = true := by
    intro entry member
    have own : entry.2.id = entry.1 := (filed.of_mem member).1
    simp [own]
  rw [contentIds, List.filter_eq_self.mpr all]
  rfl

end Template

/-! ## Conversion -/

/-- Conversion accepts a mapping exactly if every pair can be read under its ID
and all IDs differ, keeps every pair under its ID, and else reports the first
pair at fault.  What a trigger or a choice is decoded to holds just what its
nested content is converted to, and so does every block of a choice.  So entries
stand under their own IDs, at every depth of what is decoded and in every
template. -/
theorem conversion_exact :
    (∀ pairs, Converts .content Content.decode pairs (Content.decodeMap pairs)) ∧
    (∀ id pairs own nested,
      Content.kindOf id pairs = .ok .trigger →
      Content.ownEntry .trigger id pairs = .ok own →
      Content.Lists (Value.get? "content" pairs) nested →
      ∃ entries, Converts .content Content.decode nested entries ∧
        Content.decode id (.mapping pairs) =
          within (Content.itemLabel id) entries >>= fun table =>
            .ok (.trigger own.heading own.parameter table.entries)) ∧
    (∀ id pairs own nested,
      Content.kindOf id pairs = .ok .choice →
      Content.ownEntry .choice id pairs = .ok own →
      Content.Lists (Value.get? "content" pairs) nested →
      ∃ blocks, Converts .choice Content.decodeChoice nested blocks ∧
        Content.decode id (.mapping pairs) =
          within (Content.itemLabel id) blocks >>= fun table =>
            .ok (.choice own.heading own.parameter table.entries)) ∧
    (∀ choice value nested, Content.Lists (some value) nested →
      ∃ entries, Converts .content Content.decode nested entries ∧
        Content.decodeChoice choice value =
          within (label "choice" choice) entries >>= fun table => .ok table.entries) ∧
    (∀ pairs,
      Converts .parameter Parameter.Definition.decodeUnder pairs
          (Parameter.Store.ofPairs pairs >>= fun store => .ok store.table) ∧
        ∀ fault, Parameter.Store.ofPairs pairs = .error fault →
          ∀ refusal, fault.root ≠ .refused refusal) ∧
    (∀ id value entry, Content.decode id value = .ok entry → entry.id = id ∧ entry.OwnIds) ∧
    ∀ template : Template, template.Reachable →
      template.contentIds false = template.contentIds true ∧
        template.content.Forall (fun key entry => entry.id = key ∧ entry.OwnIds) ∧
        template.presets.Forall fun key entry => entry.id = key ∧ entry.OwnIds := by
  refine ⟨Content.decodeMap_converts, ?_, ?_, ?_, ?_, ?_, ?_⟩
  · intro id pairs own nested isTrigger read lists
    exact ⟨_, Content.decodeMap_converts nested, Content.decode_trigger isTrigger read lists⟩
  · intro id pairs own nested isChoice read lists
    exact ⟨_, Content.decodeChoices_converts nested, Content.decode_choice isChoice read lists⟩
  · intro choice value nested lists
    exact ⟨_, Content.decodeMap_converts nested, Content.decodeChoice_of_lists choice lists⟩
  · intro pairs
    exact ⟨Parameter.Store.ofPairs_converts pairs, fun _ => Parameter.Store.ofPairs_ne_refused⟩
  · intro id value entry decoded
    exact ⟨Content.id_of_decode decoded, (Content.orderly_of_decode id value decoded).ownIds⟩
  · intro template reachable
    have filed := reachable.filed
    have filedPresets := reachable.filedPresets
    refine ⟨?_, ?_, ?_⟩
    · rw [Template.contentIds_eq_keys filed, Template.contentIds_eq_keys filed]
    · intro key entry found
      obtain ⟨own, orderly⟩ := filed key entry found
      exact ⟨own, orderly.ownIds⟩
    · intro key entry found
      obtain ⟨own, orderly⟩ := filedPresets key entry found
      exact ⟨own, orderly.ownIds⟩

def plainText : Value :=
  .mapping [(.string "type", .string "text")]

/-- Two blocks, one of them empty, under a number and a truth value. -/
def rankBlocks : List (Value × Value) :=
  [(.number (.integer 1), .mapping [(.string "gold", plainText), (.number (.integer 3), plainText)]),
    (.bool true, .null)]

def rankPairs : List (Value × Value) :=
  [(.string "type", .string "choice"), (.string "choices", .string "place"),
    (.string "content", .mapping rankBlocks)]

/-- Texts under a number and a truth value, and a choice under a name. -/
def scores : List (Value × Value) :=
  [(.number (.integer 2), plainText), (.bool true, plainText), (.string "rank", .mapping rankPairs)]

/-- The number in quotes. -/
def quotedScore : Value × Value :=
  (.string "2", plainText)

/-- Parameters under a name and a number. -/
def places : List (Value × Value) :=
  [(.string "place", plainText), (.number (.integer 2), plainText)]

/-- The branches of a choice, with the keys in their blocks. -/
def Content.Entry.outline : Entry → List (String × List String)
  | .choice _ _ content => content.map fun block => (block.1, block.2.map Prod.fst)
  | _ => []

theorem conversion_exact_scores :
    ∃ entries own blocks store template fault,
      Content.decodeMap scores = .ok entries ∧
      entries.keys = ["2", "rank", "true"] ∧
      (∃ items, List.Forall₂ (Record.ReadAs Content.decode) scores items ∧
        entries.entries.Perm items) ∧
      Content.kindOf "rank" rankPairs = .ok .choice ∧
      Content.ownEntry .choice "rank" rankPairs = .ok own ∧
      Content.Lists (Value.get? "content" rankPairs) rankBlocks ∧
      Content.decode "rank" (.mapping rankPairs) =
        .ok (.choice own.heading own.parameter blocks) ∧
      (∃ items, List.Forall₂ (Record.ReadAs Content.decodeChoice) rankBlocks items ∧
        blocks.Perm items) ∧
      (Entry.choice own.heading own.parameter blocks).outline =
        [("1", ["3", "gold"]), ("true", [])] ∧
      Parameter.Store.ofPairs places = .ok store ∧
      store.keys = ["2", "place"] ∧
      (∃ items, List.Forall₂ (Record.ReadAs Parameter.Definition.decodeUnder) places items ∧
        store.table.entries.Perm items) ∧
      Template.ofRecord "scores.yml"
          { Record.empty with
            id := some "scores", description := some "Scores", content := some scores } =
        .ok template ∧
      template.contentIds false = template.contentIds true ∧
      Content.decodeMap (scores ++ [quotedScore]) = .error fault ∧
      fault.message = "duplicate content ID '2' (key 2 and key \"2\")" ∧
      ∃ before pair after, scores ++ [quotedScore] = before ++ pair :: after ∧
        Record.Offence .content Content.decode before pair fault := by
  obtain ⟨ofContent, _, ofChoices, _, ofParameters, _, ofTemplates⟩ := conversion_exact
  obtain ⟨entries, decoded⟩ := exists_of_isOk (Content.decodeMap scores) (by decide +kernel)
  have keys : (Content.decodeMap scores).toOption.map Table.keys =
      some ["2", "rank", "true"] := by
    decide +kernel
  rw [decoded] at keys
  have isChoice : Content.kindOf "rank" rankPairs = .ok .choice := rfl
  obtain ⟨own, read⟩ := exists_of_isOk (Content.ownEntry .choice "rank" rankPairs)
    (by decide +kernel)
  have lists : Content.Lists (Value.get? "content" rankPairs) rankBlocks := .mapping rankBlocks
  obtain ⟨outcome, converts, isRank⟩ := ofChoices _ _ _ _ isChoice read lists
  have branches :
      (Content.decode "rank" (.mapping rankPairs)).toOption.map Entry.outline =
        some [("1", ["3", "gold"]), ("true", [])] := by
    decide +kernel
  obtain ⟨blocks, converted⟩ : ∃ blocks, outcome = .ok blocks := by
    cases outcome with
    | ok blocks => exact ⟨blocks, rfl⟩
    | error fault =>
        rw [isRank] at branches
        cases branches
  rw [converted] at isRank
  rw [isRank] at branches
  obtain ⟨store, stored⟩ := exists_of_isOk (Parameter.Store.ofPairs places) (by decide +kernel)
  have ids : (Parameter.Store.ofPairs places).toOption.map Parameter.Store.keys =
      some ["2", "place"] := by
    decide +kernel
  rw [stored] at ids
  obtain ⟨ofPlaces, _⟩ := ofParameters places
  rw [stored] at ofPlaces
  obtain ⟨template, made⟩ := exists_of_isOk
    (Template.ofRecord "scores.yml"
      { Record.empty with
        id := some "scores", description := some "Scores", content := some scores })
    (by decide +kernel)
  have raised :
      (faultOf? (Content.decodeMap (scores ++ [quotedScore]))).map Fault.message =
        some "duplicate content ID '2' (key 2 and key \"2\")" := by
    decide +kernel
  obtain ⟨fault, isFault, message⟩ := Option.map_eq_some_iff.mp raised
  have failed := faultOf?_eq_some_iff.mp isFault
  obtain ⟨before, pair, after, split, _, offence, _⟩ :=
    (ofContent (scores ++ [quotedScore])).refused fault failed
  exact ⟨entries, own, blocks.entries, store, template, fault, decoded, Option.some.inj keys,
    (ofContent scores).complete entries decoded, isChoice, read, lists, isRank,
    converts.complete blocks converted, Option.some.inj branches, stored, Option.some.inj ids,
    ofPlaces.complete store.table rfl, made, (ofTemplates template (.ofRecord made)).1, failed,
    message, before, pair, after, split, offence⟩

end Chronicle
