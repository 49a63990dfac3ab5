import Chronicle.Content.Decode
import Chronicle.Proofs.Content.Nesting
import Chronicle.Proofs.Outcome

/-!
# What decoded entries look like

A decoded entry has the ID under which it was read, and everything nested in it
is in key order, each entry under its own ID.
-/

namespace Chronicle.Content

open Yaml (Value)

/-! ## Own IDs -/

theorem id_withBlock (entry : Entry) (block : Block) :
    (entry.withBlock block).id = entry.id := by
  cases entry <;> cases block <;> rfl

theorem id_of_ownEntry
    {kind : Kind} {id : String} {pairs : List (Value × Value)} {entry : Entry}
    (read : ownEntry kind id pairs = .ok entry) :
    entry.id = id := by
  rw [ownEntry] at read
  split at read
  · cases read
    cases kind <;> rfl
  · cases read

/-- A decoded entry is read from a mapping: its own fields first, and then the
nested content, if there is any. -/
theorem decode_eq_ok_iff
    {id : String} {value : Value} {entry : Entry} :
    decode id value = .ok entry ↔
      ∃ pairs kind own, value = .mapping pairs ∧ kindOf id pairs = .ok kind ∧
        ownEntry kind id pairs = .ok own ∧
        ((decodeContent kind pairs = none ∧ entry = own) ∨
          ∃ block, decodeContent kind pairs = some (.ok block) ∧ entry = own.withBlock block) := by
  cases value with
  | mapping pairs =>
      rw [decode]
      simp only [bind_eq_ok_iff, Value.mapping.injEq, exists_and_left, exists_eq_left']
      refine exists_congr fun kind => and_congr_right fun _ =>
        exists_congr fun own => and_congr_right fun _ => ?_
      cases decodeContent kind pairs with
      | none => simp [pure, Except.pure, eq_comm]
      | some outcome => cases outcome <;> simp [bind, Except.bind, pure, Except.pure, eq_comm]
  | _ => simp [decode]

theorem id_of_decode
    {id : String} {value : Value} {entry : Entry}
    (decoded : decode id value = .ok entry) :
    entry.id = id := by
  obtain ⟨pairs, kind, own, _, _, read, ⟨_, rfl⟩ | ⟨block, _, rfl⟩⟩ := decode_eq_ok_iff.mp decoded
  · exact id_of_ownEntry read
  · rw [id_withBlock, id_of_ownEntry read]

/-! ## Nested content -/

/-- Nested content as an orderly entry may have it. -/
inductive Block.Orderly : Block → Prop
  | entries {content : List (String × Entry)}
      (indexed : Entry.Indexed content)
      (nested : ∀ item ∈ content, item.2.Orderly) :
      Orderly (.entries content)
  | choices {content : List (String × List (String × Entry))}
      (increasing : content.Pairwise fun earlier later => earlier.1 < later.1)
      (indexed : ∀ block ∈ content, Entry.Indexed block.2)
      (nested : ∀ block ∈ content, ∀ item ∈ block.2, item.2.Orderly) :
      Orderly (.choices content)

theorem indexed_nil : Entry.Indexed [] :=
  ⟨List.Pairwise.nil, by simp⟩

theorem orderly_of_ownEntry
    {kind : Kind} {id : String} {pairs : List (Value × Value)} {entry : Entry}
    (read : ownEntry kind id pairs = .ok entry) :
    entry.Orderly := by
  rw [ownEntry] at read
  split at read
  · cases read
    cases kind with
    | text => exact .text
    | rectangle => exact .rectangle
    | multiline => exact .multiline
    | trigger => exact .trigger indexed_nil (by simp)
    | choice => exact .choice List.Pairwise.nil (by simp) (by simp)
  · cases read

theorem Entry.Orderly.withBlock
    {entry : Entry} {block : Block}
    (orderly : entry.Orderly)
    (blockOrderly : block.Orderly) :
    (entry.withBlock block).Orderly := by
  cases orderly <;> cases blockOrderly <;> constructor <;> assumption

/-- Orderly entries under their own IDs. -/
def Filed (key : String) (entry : Entry) : Prop :=
  entry.id = key ∧ entry.Orderly

theorem indexed_entries
    {table : Table Entry}
    (filed : table.Forall Filed) :
    Entry.Indexed table.entries :=
  ⟨table.ordered, fun _ member => (filed.of_mem member).1⟩

def FiledBlock (_ : String) (content : List (String × Entry)) : Prop :=
  Entry.Indexed content ∧ ∀ item ∈ content, item.2.Orderly

theorem filedBlock_entries
    {table : Table Entry}
    (filed : table.Forall Filed) (branch : String) :
    FiledBlock branch table.entries :=
  ⟨indexed_entries filed, fun _ member => (filed.of_mem member).2⟩

mutual

theorem orderly_of_decode
    (id : String) (value : Value) {entry : Entry}
    (decoded : decode id value = .ok entry) :
    entry.Orderly := by
  match value with
  | .mapping pairs =>
      obtain ⟨_, kind, own, ⟨⟩, _, read, ⟨_, rfl⟩ | ⟨block, isBlock, rfl⟩⟩ :=
        decode_eq_ok_iff.mp decoded
      · exact orderly_of_ownEntry read
      · exact .withBlock (orderly_of_ownEntry read) (orderly_of_decodeContent kind pairs isBlock)
  | .null | .bool _ | .number _ | .string _ | .sequence _ | .tagged _ _ => cases decoded
termination_by structural value

theorem orderly_of_decodeContent
    (kind : Kind) (pairs : List (Value × Value)) {block : Block}
    (decoded : decodeContent kind pairs = some (.ok block)) :
    block.Orderly := by
  match pairs with
  | [] => cases decoded
  | (key, value) :: rest =>
      rw [decodeContent] at decoded
      split at decoded
      · exact orderly_of_decodeBlock kind value (Option.some.inj decoded)
      · exact orderly_of_decodeContent kind rest decoded
termination_by structural pairs

theorem orderly_of_decodeBlock
    (kind : Kind) (value : Value) {block : Block}
    (decoded : decodeBlock kind value = .ok block) :
    block.Orderly := by
  match value with
  | .mapping pairs =>
      rw [decodeBlock] at decoded
      split at decoded
      · obtain ⟨blocks, isBlocks, decoded⟩ := bind_eq_ok_iff.mp decoded
        cases decoded
        have filed := filed_of_decodeChoices pairs isBlocks (Table.forall_empty _)
        exact .choices blocks.ordered (fun _ member => (filed.of_mem member).1)
          (fun _ member => (filed.of_mem member).2)
      · obtain ⟨entries, isEntries, decoded⟩ := bind_eq_ok_iff.mp decoded
        cases decoded
        have filed := filed_of_decodePairs pairs isEntries (Table.forall_empty _)
        exact .entries (indexed_entries filed) (fun _ member => (filed.of_mem member).2)
  | .null =>
      rw [decodeBlock] at decoded
      split at decoded
      · cases decoded
        exact .choices List.Pairwise.nil (by simp) (by simp)
      · cases decoded
        exact .entries indexed_nil (by simp)
  | .bool _ | .number _ | .string _ | .sequence _ | .tagged _ _ => cases decoded
termination_by structural value

theorem filed_of_decodePairs
    (pairs : List (Value × Value)) {labels : Labels} {entries decoded : Table Entry}
    (isDecoded : decodePairs pairs labels entries = .ok decoded)
    (filed : entries.Forall Filed) :
    decoded.Forall Filed := by
  match pairs with
  | [] =>
      cases isDecoded
      exact filed
  | (key, value) :: rest =>
      rw [decodePairs] at isDecoded
      obtain ⟨id, _, isDecoded⟩ := bind_eq_ok_iff.mp isDecoded
      split at isDecoded
      · cases isDecoded
      · obtain ⟨entry, isEntry, isDecoded⟩ := bind_eq_ok_iff.mp isDecoded
        exact filed_of_decodePairs rest isDecoded
          (filed.insert ⟨id_of_decode isEntry, orderly_of_decode id value isEntry⟩)
termination_by structural pairs

theorem filed_of_decodeChoices
    (pairs : List (Value × Value)) {labels : Labels}
    {blocks decoded : Table (List (String × Entry))}
    (isDecoded : decodeChoices pairs labels blocks = .ok decoded)
    (filed : blocks.Forall FiledBlock) :
    decoded.Forall FiledBlock := by
  match pairs with
  | [] =>
      cases isDecoded
      exact filed
  | (key, value) :: rest =>
      rw [decodeChoices] at isDecoded
      obtain ⟨branch, _, isDecoded⟩ := bind_eq_ok_iff.mp isDecoded
      split at isDecoded
      · cases isDecoded
      · obtain ⟨content, isContent, isDecoded⟩ := bind_eq_ok_iff.mp isDecoded
        exact filed_of_decodeChoices rest isDecoded
          (filed.insert (filed_of_decodeChoice branch value isContent))
termination_by structural pairs

theorem filed_of_decodeChoice
    (branch : String) (value : Value) {content : List (String × Entry)}
    (decoded : decodeChoice branch value = .ok content) :
    FiledBlock branch content := by
  match value with
  | .mapping pairs =>
      rw [decodeChoice, bind_eq_ok_iff] at decoded
      obtain ⟨entries, isEntries, decoded⟩ := decoded
      cases decoded
      exact filedBlock_entries
        (filed_of_decodePairs pairs (within_eq_ok_iff.mp isEntries) (Table.forall_empty _)) branch
  | .null =>
      cases decoded
      exact ⟨indexed_nil, by simp⟩
  | .bool _ | .number _ | .string _ | .sequence _ | .tagged _ _ => cases decoded
termination_by structural value

end

/-- All entries of a decoded mapping are orderly, each under its own ID. -/
theorem filed_of_decodeMap
    {pairs : List (Value × Value)} {entries : Table Entry}
    (decoded : decodeMap pairs = .ok entries) :
    entries.Forall Filed :=
  filed_of_decodePairs pairs decoded (Table.forall_empty _)

end Chronicle.Content
