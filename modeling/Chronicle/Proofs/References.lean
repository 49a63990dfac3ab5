import Chronicle.Proofs.Inheritance

/-!
# References between content, presets and parameters

A template is checked entry by entry, in the order in which a walk meets them.
The check succeeds exactly if every entry is intact, and else it reports the
first violation, in the order of the keys that lead to it.
-/

namespace Chronicle

open Content (Entry)
open Content.Entry (Below Position walk walkEntries walkBlocks)

/-- The keys under which the content of a choice stands. -/
def Content.Entry.branches : Entry → List String
  | .choice _ _ content => content.map Prod.fst
  | _ => []

namespace Template

/-! ## One entry -/

/-- All references of an entry lead somewhere.  If its parameter is a choice,
every branch of the entry is one of the choices. -/
structure Intact (template : Template) (entry : Entry) : Prop where
  presets : ∀ id ∈ entry.presets, ∃ preset, template.presets.get? id = some preset
  parameter : ∀ id, entry.parameter = some id →
    ∃ definition, template.parameters.get? id = some definition ∧
      ∀ choices, definition.choices? = some choices →
        ∀ branch ∈ entry.branches, branch ∈ choices

/-- The first thing that is wrong with the references of an entry. -/
inductive Violation (template : Template) (entry : Entry) : Fault → Prop
  | preset {before after : List String} {id : String}
      (listed : entry.presets = before ++ id :: after)
      (known : ∀ earlier ∈ before, ∃ preset, template.presets.get? earlier = some preset)
      (unknown : template.presets.get? id = none) :
      Violation template entry (.notFound .preset id)
  | parameter {id : String}
      (presets : ∀ preset ∈ entry.presets, ∃ found, template.presets.get? preset = some found)
      (linked : entry.parameter = some id)
      (unknown : template.parameters.get? id = none) :
      Violation template entry (.notFound .parameter id)
  | choice {id branch : String} {definition : Parameter.Definition} {choices : List String}
      (presets : ∀ preset ∈ entry.presets, ∃ found, template.presets.get? preset = some found)
      (linked : entry.parameter = some id)
      (found : template.parameters.get? id = some definition)
      (ofChoices : definition.choices? = some choices)
      (isBranch : branch ∈ entry.branches)
      (unlisted : branch ∉ choices)
      (least : ∀ other ∈ entry.branches, other ∉ choices → branch ≤ other) :
      Violation template entry (.validation (.unknownChoice branch id))

section

variable {template : Template} {entry : Entry}

theorem Violation.not_intact
    {fault : Fault}
    (violation : template.Violation entry fault) :
    ¬ template.Intact entry := by
  intro intact
  cases violation with
  | @preset _ _ id listed _ unknown =>
      have isListed : id ∈ entry.presets := by simp [listed]
      obtain ⟨preset, found⟩ := intact.presets id isListed
      rw [unknown] at found
      cases found
  | parameter _ linked unknown =>
      obtain ⟨definition, found, _⟩ := intact.parameter _ linked
      rw [unknown] at found
      cases found
  | choice _ linked found ofChoices isBranch unlisted _ =>
      obtain ⟨definition, isFound, listed⟩ := intact.parameter _ linked
      rw [found, Option.some.injEq] at isFound
      subst isFound
      exact unlisted (listed _ ofChoices _ isBranch)

theorem missingPreset_eq_none_iff :
    template.missingPreset entry = none ↔
      ∀ id ∈ entry.presets, ∃ preset, template.presets.get? id = some preset := by
  simp only [missingPreset, List.find?_eq_none, Bool.not_eq_true, Bool.not_eq_false',
    Table.contains_iff]

theorem missingPreset_eq_some_iff
    {id : String} :
    template.missingPreset entry = some id ↔
      ∃ before after, entry.presets = before ++ id :: after ∧
        (∀ earlier ∈ before, ∃ preset, template.presets.get? earlier = some preset) ∧
        template.presets.get? id = none := by
  simp only [missingPreset, List.find?_eq_some_iff_append, Bool.not_not, Bool.not_eq_true',
    Table.contains_iff, Table.contains_eq_false_iff]
  constructor
  · rintro ⟨unknown, before, after, listed, known⟩
    exact ⟨before, after, listed, known, unknown⟩
  · rintro ⟨before, after, listed, known, unknown⟩
    exact ⟨unknown, before, after, listed, known⟩

theorem unknownChoice_eq
    (definition : Parameter.Definition) (entry : Entry) :
    unknownChoice definition entry =
      definition.choices?.bind fun choices =>
        entry.branches.find? fun branch => !choices.contains branch := by
  cases entry with
  | choice => rfl
  | _ => cases definition.choices? <;> rfl

theorem unknownChoice_eq_none_iff
    {definition : Parameter.Definition} :
    unknownChoice definition entry = none ↔
      ∀ choices, definition.choices? = some choices →
        ∀ branch ∈ entry.branches, branch ∈ choices := by
  rw [unknownChoice_eq, Option.bind_eq_none_iff]
  simp

theorem branches_increasing
    (orderly : entry.Orderly) :
    entry.branches.Pairwise (· < ·) := by
  cases orderly with
  | choice increasing => exact List.pairwise_map.mpr increasing
  | _ => exact List.Pairwise.nil

theorem unknownChoice_eq_some_iff
    (orderly : entry.Orderly)
    {definition : Parameter.Definition} {branch : String} :
    unknownChoice definition entry = some branch ↔
      ∃ choices, definition.choices? = some choices ∧ branch ∈ entry.branches ∧
        branch ∉ choices ∧ ∀ other ∈ entry.branches, other ∉ choices → branch ≤ other := by
  rw [unknownChoice_eq, Option.bind_eq_some_iff]
  simp only [Table.find?_eq_some_iff_of_increasing (branches_increasing orderly)]
  simp

/-- The check of one entry finds it intact or reports a violation. -/
theorem validateOwn_outcome
    (template : Template) (orderly : entry.Orderly) :
    (template.validateOwn entry = .ok () ∧ template.Intact entry) ∨
      ∃ fault, template.validateOwn entry = .error fault ∧ template.Violation entry fault := by
  rw [validateOwn]
  cases missing : template.missingPreset entry with
  | some id =>
      obtain ⟨before, after, listed, known, unknown⟩ := missingPreset_eq_some_iff.mp missing
      exact Or.inr ⟨_, rfl, .preset listed known unknown⟩
  | none =>
      have presets := missingPreset_eq_none_iff.mp missing
      cases linked : entry.parameter with
      | none => exact Or.inl ⟨rfl, presets, by simp [linked]⟩
      | some id =>
          cases found : template.parameters.get? id with
          | none =>
              refine Or.inr ⟨.notFound .parameter id, ?_, .parameter presets linked found⟩
              simp only [Parameter.Store.require, found]
              rfl
          | some definition =>
              simp only [Parameter.Store.require, found, bind, Except.bind]
              cases unlisted : unknownChoice definition entry with
              | none =>
                  refine Or.inl ⟨rfl, presets, ?_⟩
                  intro other isOther
                  rw [linked, Option.some.injEq] at isOther
                  subst isOther
                  exact ⟨definition, found, unknownChoice_eq_none_iff.mp unlisted⟩
              | some branch =>
                  obtain ⟨choices, ofChoices, isBranch, isUnlisted, least⟩ :=
                    (unknownChoice_eq_some_iff orderly).mp unlisted
                  exact Or.inr ⟨_, rfl,
                    .choice presets linked found ofChoices isBranch isUnlisted least⟩

theorem validateOwn_eq_ok_iff
    (orderly : entry.Orderly) :
    template.validateOwn entry = .ok () ↔ template.Intact entry := by
  rcases validateOwn_outcome template orderly with
    ⟨passed, intact⟩ | ⟨fault, failed, violation⟩
  · exact ⟨fun _ => intact, fun _ => passed⟩
  · rw [failed]
    constructor
    · intro isOk
      cases isOk
    · intro intact
      exact absurd intact violation.not_intact

/-- A violation is what the check reports, so there is one at most. -/
theorem Violation.reported
    (orderly : entry.Orderly) {fault : Fault}
    (violation : template.Violation entry fault) :
    template.validateOwn entry = .error fault := by
  rw [validateOwn]
  cases violation with
  | preset listed known unknown =>
      rw [missingPreset_eq_some_iff.mpr ⟨_, _, listed, known, unknown⟩]
      rfl
  | parameter presets linked unknown =>
      rw [missingPreset_eq_none_iff.mpr presets, linked]
      simp only [Parameter.Store.require, unknown]
      rfl
  | choice presets linked found ofChoices isBranch unlisted least =>
      rw [missingPreset_eq_none_iff.mpr presets, linked]
      have isUnknown := (unknownChoice_eq_some_iff orderly).mpr
        ⟨_, ofChoices, isBranch, unlisted, least⟩
      simp only [Parameter.Store.require, found, bind, Except.bind, isUnknown]
      rfl

/-! ## The walk of the check -/

/-- The fault in the labels of the entries around it, the outermost first. -/
def inContent (ids : List String) (fault : Fault) : Fault :=
  ids.foldr (fun id inner => .context (contentLabel id) inner) fault

/-- The check of the entry at a position. -/
def checkAt (template : Template) (position : Position) : Except Fault Unit :=
  (template.validateOwn position.entry).mapError (inContent position.ids)

theorem checkAt_eq_ok_iff
    {position : Position}
    (orderly : position.entry.Orderly) :
    template.checkAt position = .ok () ↔ template.Intact position.entry := by
  rw [checkAt, mapError_eq_ok_iff, validateOwn_eq_ok_iff orderly]

theorem checkAt_eq_error_iff
    {position : Position} {fault : Fault}
    (orderly : position.entry.Orderly) :
    template.checkAt position = .error fault ↔
      ∃ cause, template.Violation position.entry cause ∧ fault = inContent position.ids cause := by
  rw [checkAt]
  constructor
  · intro failed
    rcases validateOwn_outcome template orderly with ⟨passed, _⟩ | ⟨cause, reported, violation⟩
    · rw [passed] at failed
      cases failed
    · rw [reported] at failed
      cases failed
      exact ⟨cause, violation, rfl⟩
  · rintro ⟨cause, violation, rfl⟩
    rw [violation.reported orderly]
    rfl

theorem checkAt_root (template : Template) (entry : Entry) :
    template.checkAt ⟨[], [], entry⟩ = template.validateOwn entry := by
  cases outcome : template.validateOwn entry <;> simp [checkAt, outcome, inContent]

theorem checkAt_under (key id : String) (position : Position) :
    template.checkAt (position.under key id) =
      within (contentLabel id) (template.checkAt position) := by
  cases outcome : template.validateOwn position.entry <;>
    simp [checkAt, Position.under, outcome, inContent]

theorem checkAt_inside (branch : String) (position : Position) :
    template.checkAt (position.inside branch) = template.checkAt position :=
  rfl

theorem validateEntries_eq_forM
    {content : List (String × Entry)}
    (nested : ∀ item ∈ content,
      template.validateEntry item.2 = (walk item.2).forM template.checkAt) :
    template.validateEntries content = (walkEntries content).forM template.checkAt := by
  induction content with
  | nil => rfl
  | cons head rest inductionHypothesis =>
      obtain ⟨key, child⟩ := head
      obtain ⟨ofHead, ofRest⟩ := List.forall_mem_cons.mp nested
      rw [validateEntries, ofHead, inductionHypothesis ofRest, within_forM, walkEntries,
        List.forM_eq_forM, List.forM_append, List.forM_map]
      simp only [checkAt_under]

theorem validateBlocks_eq_forM
    {content : List (String × List (String × Entry))}
    (nested : ∀ block ∈ content, ∀ item ∈ block.2,
      template.validateEntry item.2 = (walk item.2).forM template.checkAt) :
    template.validateBlocks content = (walkBlocks content).forM template.checkAt := by
  induction content with
  | nil => rfl
  | cons head rest inductionHypothesis =>
      obtain ⟨branch, block⟩ := head
      obtain ⟨ofHead, ofRest⟩ := List.forall_mem_cons.mp nested
      rw [validateBlocks, validateEntries_eq_forM ofHead, inductionHypothesis ofRest, walkBlocks,
        List.forM_eq_forM, List.forM_append, List.forM_map]
      simp only [checkAt_inside]

/-- An entry is checked at all positions of the walk through it. -/
theorem validateEntry_eq_forM (template : Template) (entry : Entry) :
    template.validateEntry entry = (walk entry).forM template.checkAt := by
  induction entry using Content.Entry.induction_on_nested with
  | text | multiline | rectangle =>
      rw [validateEntry, walk, List.forM_eq_forM, List.forM_cons, checkAt_root]
      exact (bind_pure _).symm
  | trigger heading parameter content inductionHypothesis =>
      rw [validateEntry, walk, validateEntries_eq_forM inductionHypothesis, List.forM_eq_forM,
        List.forM_cons, checkAt_root]
  | choice heading parameter content inductionHypothesis =>
      rw [validateEntry, walk, validateBlocks_eq_forM inductionHypothesis, List.forM_eq_forM,
        List.forM_cons, checkAt_root]

/-! ## The whole template -/

/-- The entry that the keys lead to, with the IDs of the entries from the top
level down to it. -/
inductive Holds (template : Template) : List String → List String → Entry → Prop
  | intro {key : String} {top : Entry} {keys ids : List String} {entry : Entry}
      (stored : template.content.get? key = some top)
      (below : Below top keys ids entry) :
      Holds template (key :: keys) (top.id :: ids) entry

theorem mem_walk_content_iff
    {position : Position} :
    position ∈ walkEntries template.content.entries ↔
      template.Holds position.keys position.ids position.entry := by
  rw [Content.Entry.mem_walkEntries_iff]
  constructor
  · rintro ⟨⟨key, top⟩, member, inner, isInner, rfl⟩
    exact .intro (Table.mem_entries_iff.mp member) (Content.Entry.mem_walk_iff.mp isInner)
  · obtain ⟨keys, ids, entry⟩ := position
    rintro ⟨stored, below⟩
    exact ⟨_, Table.mem_entries_iff.mpr stored, _, below.mem_walk, rfl⟩

theorem Holds.mem_walk
    {keys ids : List String} {entry : Entry}
    (held : template.Holds keys ids entry) :
    ⟨keys, ids, entry⟩ ∈ walkEntries template.content.entries :=
  mem_walk_content_iff.mpr held

/-- The check of the content labels entries by their keys, which are their
IDs. -/
theorem forM_eq_validateEntries
    {content : List (String × Entry)}
    (own : ∀ item ∈ content, item.2.id = item.1) :
    content.forM (fun item => within (contentLabel item.1) (template.validateEntry item.2)) =
      template.validateEntries content := by
  induction content with
  | nil => rfl
  | cons head rest inductionHypothesis =>
      obtain ⟨key, entry⟩ := head
      obtain ⟨headOwn, restOwn⟩ := List.forall_mem_cons.mp own
      rw [validateEntries, ← inductionHypothesis restOwn, headOwn]
      rfl

theorem validate_eq_forM
    (filed : template.content.Forall Content.Filed) :
    template.validate = within (itemLabel template.id) (do
      template.parameters.validate
      (walkEntries template.content.entries).forM template.checkAt) := by
  rw [validate, forM_eq_validateEntries (Content.indexed_entries filed).own,
    validateEntries_eq_forM fun item _ => validateEntry_eq_forM ..]

/-- Everything that a template holds, however deep, is orderly. -/
theorem Holds.orderly
    (filed : template.content.Forall Content.Filed)
    {keys ids : List String} {entry : Entry}
    (held : template.Holds keys ids entry) :
    entry.Orderly := by
  obtain ⟨stored, below⟩ := held
  exact (filed _ _ stored).2.of_below below

/-- The first entry that is not intact, in the order of the keys that lead to
it, and what is wrong with it. -/
structure IsFirstViolation
    (template : Template) (keys ids : List String) (entry : Entry) (cause : Fault) : Prop where
  held : template.Holds keys ids entry
  violation : template.Violation entry cause
  least : ∀ otherKeys otherIds other, template.Holds otherKeys otherIds other →
    ¬ template.Intact other → otherKeys = keys ∨ List.Lex (· < ·) keys otherKeys

theorem checkContent_eq_ok_iff
    (filed : template.content.Forall Content.Filed) :
    (walkEntries template.content.entries).forM template.checkAt = .ok () ↔
      ∀ keys ids entry, template.Holds keys ids entry → template.Intact entry := by
  rw [forM_eq_ok_iff]
  constructor
  · intro passed keys ids entry held
    exact (checkAt_eq_ok_iff (held.orderly filed)).mp
      (passed ⟨keys, ids, entry⟩ held.mem_walk)
  · intro intact position member
    have held := mem_walk_content_iff.mp member
    exact (checkAt_eq_ok_iff (held.orderly filed)).mpr (intact _ _ _ held)

theorem checkContent_eq_error_iff
    (filed : template.content.Forall Content.Filed)
    {fault : Fault} :
    (walkEntries template.content.entries).forM template.checkAt = .error fault ↔
      ∃ keys ids entry cause, template.IsFirstViolation keys ids entry cause ∧
        fault = inContent ids cause := by
  have increasing : (walkEntries template.content.entries).Pairwise Position.Precedes :=
    Content.Entry.walkEntries_increasing (Content.indexed_entries filed)
      fun item member => (filed.of_mem member).2.walk_increasing
  have intact_of_passed : ∀ position ∈ walkEntries template.content.entries,
      template.checkAt position = .ok () ↔ template.Intact position.entry :=
    fun position member => checkAt_eq_ok_iff ((mem_walk_content_iff.mp member).orderly filed)
  rw [forM_eq_error_iff]
  constructor
  · rintro ⟨before, position, after, split, passed, failed⟩
    rw [split] at increasing intact_of_passed
    obtain ⟨_, fromPosition, _⟩ := List.pairwise_append.mp increasing
    have held := mem_walk_content_iff.mp (split ▸ List.mem_append_right _ (List.mem_cons_self ..))
    obtain ⟨cause, violation, rfl⟩ := (checkAt_eq_error_iff (held.orderly filed)).mp failed
    refine ⟨_, _, _, cause, ⟨held, violation, ?_⟩, rfl⟩
    intro otherKeys otherIds other otherHeld damaged
    have met : ⟨otherKeys, otherIds, other⟩ ∈ before ++ position :: after :=
      split ▸ otherHeld.mem_walk
    rcases List.mem_append.mp met with isEarlier | isLater
    · exact absurd ((intact_of_passed _ met).mp (passed _ isEarlier)) damaged
    · rcases List.mem_cons.mp isLater with same | isAfter
      · exact Or.inl (congrArg Position.keys same)
      · exact Or.inr ((List.pairwise_cons.mp fromPosition).1 _ isAfter)
  · rintro ⟨keys, ids, entry, cause, first, rfl⟩
    obtain ⟨before, after, split⟩ := List.append_of_mem first.held.mem_walk
    rw [split] at increasing intact_of_passed
    refine ⟨before, ⟨keys, ids, entry⟩, after, split, ?_, ?_⟩
    · intro earlier isEarlier
      have met : earlier ∈ before ++ ⟨keys, ids, entry⟩ :: after :=
        List.mem_append_left _ isEarlier
      have precedes : List.Lex (· < ·) earlier.keys keys :=
        (List.pairwise_append.mp increasing).2.2 earlier isEarlier _ (List.mem_cons_self ..)
      rw [intact_of_passed earlier met]
      apply Classical.byContradiction
      intro damaged
      have held := mem_walk_content_iff.mp (split ▸ met)
      rcases first.least _ _ _ held damaged with same | later
      · exact List.lex_irrefl String.lt_irrefl keys (same ▸ precedes)
      · exact List.lex_asymm String.lt_asymm precedes later
    · exact (checkAt_eq_error_iff (first.held.orderly filed)).mpr ⟨cause, first.violation, rfl⟩

/-- A template passes its check exactly if its parameters do and all entries in
it are intact.  With valid parameters the check reports the first violation, in
the labels of the template and of the entries from the top level down. -/
theorem validate_outcome
    (reachable : template.Reachable) :
    (template.validate = .ok () ↔
        template.parameters.validate = .ok () ∧
          ∀ keys ids entry, template.Holds keys ids entry → template.Intact entry) ∧
      (template.parameters.validate = .ok () → ∀ fault,
        template.validate = .error fault ↔
          ∃ keys ids entry cause, template.IsFirstViolation keys ids entry cause ∧
            fault = .context (itemLabel template.id) (inContent ids cause)) := by
  have filed := reachable.filed
  rw [validate_eq_forM filed]
  constructor
  · rw [within_eq_ok_iff, bind_eq_ok_iff, ← checkContent_eq_ok_iff filed]
    exact ⟨fun ⟨_, parameters, content⟩ => ⟨parameters, content⟩,
      fun ⟨parameters, content⟩ => ⟨_, parameters, content⟩⟩
  · intro parameters fault
    simp only [parameters, bind, Except.bind, within_eq_error_iff, checkContent_eq_error_iff filed]
    constructor
    · rintro ⟨_, ⟨keys, ids, entry, cause, first, rfl⟩, rfl⟩
      exact ⟨keys, ids, entry, cause, first, rfl⟩
    · rintro ⟨keys, ids, entry, cause, first, rfl⟩
      exact ⟨_, ⟨keys, ids, entry, cause, first, rfl⟩, rfl⟩

end

/-- A sheet with three things wrong in it: below a trigger a choice with a
branch that its inherited parameter does not list, inside that branch an unknown
preset, and behind the trigger another one. -/
def factionSheet : Record :=
  { Record.empty with
    id := some "sheet"
    description := some "Sheet"
    presets := some [(.string "bold", .mapping [(.string "type", .string "text")])]
    content := some [
      (.string "notes", .mapping [(.string "type", .string "text"),
        (.string "presets", .sequence [.string "bold", .string "missing"])]),
      (.string "member", .mapping [(.string "type", .string "trigger"),
        (.string "trigger", .string "faction"),
        (.string "content", .mapping [
          (.string "mark", .mapping [(.string "type", .string "choice"),
            (.string "choices", .string "faction"),
            (.string "content", .mapping [
              (.string "Vigilant Seal", .mapping [
                (.string "seal", .mapping [(.string "type", .string "rectangle"),
                  (.string "presets", .sequence [.string "bold"])])]),
              (.string "Radiant Oath", .mapping [
                (.string "oath", .mapping [(.string "type", .string "rectangle"),
                  (.string "presets", .sequence [.string "unknown"])])])])])])])] }

def factionBase : Record :=
  { Record.empty with
    id := some "base"
    description := some "Base"
    parameters := some [(.string "faction", .mapping
      [(.string "type", .string "choice"), (.string "description", .string "Faction"),
        (.string "example", .string "Vigilant Seal"),
        (.string "choices", .sequence [.string "Grand Archive", .string "Vigilant Seal"])])] }

theorem validate_outcome_factionSheet :
    ∃ sheet base template fault keys ids entry cause,
      ofRecord "sheet.yml" factionSheet = .ok sheet ∧
      ofRecord "base.yml" factionBase = .ok base ∧
      sheet.inherit base = .ok template ∧
      template.parameters.validate = .ok () ∧
      template.validate = .error fault ∧
      fault.message = "template 'sheet': content 'member': content 'mark': " ++
        "validation error: 'Radiant Oath' is not a choice of parameter 'faction'" ∧
      template.IsFirstViolation keys ids entry cause ∧
      fault = .context (itemLabel template.id) (inContent ids cause) := by
  obtain ⟨⟨_, _, _⟩, steps⟩ := exists_of_isOk
    (ofRecord "sheet.yml" factionSheet >>= fun sheet =>
      ofRecord "base.yml" factionBase >>= fun base =>
        sheet.inherit base >>= fun template =>
          template.parameters.validate >>= fun _ => .ok (sheet, base, template))
    (by decide +kernel)
  simp only [bind_eq_ok_iff, Except.ok.injEq, Prod.mk.injEq] at steps
  obtain ⟨sheet, isSheet, base, isBase, template, isTemplate, ⟨⟩, parameters, rfl, rfl, rfl⟩ := steps
  have raised :
      (faultOf? (ofRecord "sheet.yml" factionSheet >>= fun sheet =>
        ofRecord "base.yml" factionBase >>= fun base =>
          sheet.inherit base >>= fun template => template.validate)).map Fault.message =
        some ("template 'sheet': content 'member': content 'mark': " ++
          "validation error: 'Radiant Oath' is not a choice of parameter 'faction'") := by
    decide +kernel
  simp only [isSheet, isBase, isTemplate, bind, Except.bind] at raised
  obtain ⟨fault, isFault, message⟩ := Option.map_eq_some_iff.mp raised
  have failed : template.validate = .error fault := faultOf?_eq_some_iff.mp isFault
  have reachable : template.Reachable := .inherit (.ofRecord isSheet) (.ofRecord isBase) isTemplate
  obtain ⟨keys, ids, entry, cause, first, isWrapped⟩ :=
    ((validate_outcome reachable).2 parameters fault).mp failed
  exact ⟨sheet, base, template, fault, keys, ids, entry, cause, isSheet, isBase, isTemplate,
    parameters, failed, message, first, isWrapped⟩

end Template

end Chronicle
