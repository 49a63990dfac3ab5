import Chronicle.Template
import Chronicle.Proofs.Content.Decoding

/-!
# Templates of records

A template made from a record has the fields of the record, and its content is
the decoded content with the default preset filled in.  Filling keeps every
entry under its own ID and all nested content in order.
-/

namespace Chronicle

open Content (Entry)

namespace Content.Entry

theorem id_fill (entry preset : Entry) : (entry.fill preset).id = entry.id := by
  cases entry <;> rfl

theorem Orderly.fill
    {entry : Entry}
    (orderly : entry.Orderly) (preset : Entry) :
    (entry.fill preset).Orderly := by
  cases orderly with
  | text => exact .text
  | multiline => exact .multiline
  | rectangle => exact .rectangle
  | trigger indexed nested => exact .trigger indexed nested
  | choice increasing indexed nested => exact .choice increasing indexed nested

end Content.Entry

namespace Template

/-! ## Making a template -/

/-- The template that a record states, fields that are left out included. -/
structure Recorded (locator : String) (record : Record) (template : Template) : Prop where
  id : present record.id = some template.id
  description : present record.description = some template.description
  parent : template.parent = present record.parent
  aliases : template.aliases = record.aliases.getD []
  locator : template.locator = locator
  presets : Content.decodeMap (record.presets.getD []) = .ok template.presets
  parameters : Parameter.Store.ofPairs (record.parameters.getD []) = .ok template.parameters
  content : ∃ decoded, Content.decodeMap (record.content.getD []) = .ok decoded ∧
    template.content = fillContent template.presets decoded

theorem ofRecord_eq_ok_iff
    {locator : String} {record : Record} {template : Template} :
    ofRecord locator record = .ok template ↔ Recorded locator record template := by
  constructor
  · intro made
    rw [ofRecord] at made
    split at made
    · cases made
    · rename_i id isId
      split at made
      · cases made
      · rename_i description isDescription
        simp only [bind_eq_ok_iff, mapError_eq_ok_iff, within_eq_ok_iff] at made
        obtain ⟨content, isContent, presets, isPresets, parameters, isParameters, made⟩ := made
        cases made
        exact ⟨isId, isDescription, rfl, rfl, rfl, isPresets, isParameters, content, isContent, rfl⟩
  · intro recorded
    obtain ⟨id, description, parent, aliases, ofLocator, content, presets, parameters⟩ := template
    obtain ⟨isId, isDescription, rfl, rfl, rfl, isPresets, isParameters, decoded, isContent,
      filled⟩ := recorded
    dsimp only at isId isDescription isPresets isParameters filled
    subst filled
    rw [ofRecord]
    simp only [isId, isDescription, bind_eq_ok_iff, mapError_eq_ok_iff, within_eq_ok_iff]
    exact ⟨decoded, isContent, presets, isPresets, parameters, isParameters, rfl⟩

/-! ## Content -/

theorem filed_fillContent
    {presets content : Table Entry}
    (filed : content.Forall Content.Filed) :
    (fillContent presets content).Forall Content.Filed := by
  rw [fillContent]
  split
  · rename_i preset _
    intro key entry found
    rw [Table.get?_mapValues, Option.map_eq_some_iff] at found
    obtain ⟨own, isOwn, rfl⟩ := found
    obtain ⟨ownId, orderly⟩ := filed key own isOwn
    exact ⟨(Content.Entry.id_fill own preset).trans ownId, orderly.fill preset⟩
  · exact filed

end Template

end Chronicle
