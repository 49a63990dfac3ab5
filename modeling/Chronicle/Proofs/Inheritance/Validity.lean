import Chronicle.Proofs.References

/-!
# What inheriting does to the checks

A template that is laid over an ancestor answers every reference that one of the
two could answer, so no entry loses what it refers to.  All that can go wrong is
that a society ID parameter of one derives a key that is a parameter of the
other.
-/

namespace Chronicle

open Content (Entry)

/-! ## Parameters -/

namespace Parameter.Store

/-- No key that a society ID parameter derives is one of the IDs. -/
def LeavesFree (store : Store) (ids : List String) : Prop :=
  ∀ id definition, store.get? id = some definition → definition.form = .societyId →
    id ++ ".player" ∉ ids ∧ id ++ ".char" ∉ ids

theorem leavesFree_iff
    {store : Store} {ids : List String}
    (keyed : store.Keyed) :
    store.LeavesFree ids ↔
      ∀ id definition, store.get? id = some definition →
        ∀ key ∈ definition.derivedKeys, key ∉ ids := by
  have ofForm : ∀ definition : Definition,
      (definition.form = .societyId →
          definition.id ++ ".player" ∉ ids ∧ definition.id ++ ".char" ∉ ids) ↔
        ∀ key ∈ definition.derivedKeys, key ∉ ids := by
    intro definition
    rw [Definition.derivedKeys]
    cases definition.form with
    | text => simp
    | choice => simp
    | societyId => simp [Definition.playerKey, Definition.characterKey]
  unfold LeavesFree
  apply forall_congr'
  intro id
  apply forall_congr'
  intro definition
  apply imp_congr_right
  intro found
  have own : definition.id = id := keyed id definition found
  rw [← own]
  exact ofForm definition

theorem contains_eq_false_iff_not_mem
    {store : Store} {key : String} :
    store.contains key = false ↔ key ∉ store.keys := by
  rw [keys, Table.mem_keys_iff_contains, Bool.not_eq_true]
  rfl

/-- Two checked stores without a common ID unite to a checked one as long as
neither derives a key that the other defines. -/
theorem validate_union_iff
    {store other : Store}
    (keyed : store.Keyed)
    (otherKeyed : other.Keyed)
    (apart : ∀ id ∈ store.keys, id ∉ other.keys)
    (checked : store.validate = .ok ())
    (otherChecked : other.validate = .ok ()) :
    Store.validate ⟨store.table.union other.table⟩ = .ok () ↔
      store.LeavesFree other.keys ∧ other.LeavesFree store.keys := by
  have found_iff : ∀ id definition,
      Store.get? ⟨store.table.union other.table⟩ id = some definition ↔
        store.get? id = some definition ∨ other.get? id = some definition :=
    fun _ _ => Table.get?_union_eq_some_iff apart
  have free_iff : ∀ key,
      Store.contains ⟨store.table.union other.table⟩ key = false ↔
        key ∉ store.keys ∧ key ∉ other.keys := by
    intro key
    rw [contains_eq_false_iff_not_mem, ← not_or]
    exact not_congr Table.mem_keys_union
  rw [leavesFree_iff keyed, leavesFree_iff otherKeyed, validate_eq_ok_iff]
  rw [validate_eq_ok_iff] at checked otherChecked
  constructor
  · intro united
    have absent : ∀ id definition,
        store.get? id = some definition ∨ other.get? id = some definition →
          ∀ key ∈ definition.derivedKeys, key ∉ store.keys ∧ key ∉ other.keys := by
      intro id definition found key derived
      have unknown := (united id definition ((found_iff id definition).mpr found)).2 key derived
      exact (free_iff key).mp unknown
    constructor
    · intro id definition found key derived
      exact (absent id definition (Or.inl found) key derived).2
    · intro id definition found key derived
      exact (absent id definition (Or.inr found) key derived).1
  · intro ⟨free, otherFree⟩ id definition found
    rcases (found_iff id definition).mp found with own | inherited
    · obtain ⟨sound, unknown⟩ := checked id definition own
      refine ⟨sound, ?_⟩
      intro key derived
      have notOwn : key ∉ store.keys := contains_eq_false_iff_not_mem.mp (unknown key derived)
      exact (free_iff key).mpr ⟨notOwn, free id definition own key derived⟩
    · obtain ⟨sound, unknown⟩ := otherChecked id definition inherited
      refine ⟨sound, ?_⟩
      intro key derived
      have notInherited : key ∉ other.keys :=
        contains_eq_false_iff_not_mem.mp (unknown key derived)
      exact (free_iff key).mpr ⟨otherFree id definition inherited key derived, notInherited⟩

end Parameter.Store

/-! ## References -/

namespace Template

section

variable {template ancestor other merged : Template} {entry : Entry}

/-- Whatever an entry may refer to in the template is in the other one too, and
parameters are defined there in the same way. -/
structure CoveredBy (template other : Template) : Prop where
  presets : ∀ id preset, template.presets.get? id = some preset →
    ∃ found, other.presets.get? id = some found
  parameters : ∀ id definition, template.parameters.get? id = some definition →
    other.parameters.get? id = some definition

theorem Intact.of_coveredBy
    (intact : template.Intact entry)
    (covered : template.CoveredBy other) :
    other.Intact entry := by
  constructor
  · intro id listed
    obtain ⟨preset, found⟩ := intact.presets id listed
    exact covered.presets id preset found
  · intro id linked
    obtain ⟨definition, found, branches⟩ := intact.parameter id linked
    exact ⟨definition, covered.parameters id definition found, branches⟩

theorem coveredBy_layOver (template ancestor : Template) :
    template.CoveredBy (template.layOver ancestor) := by
  constructor
  · intro id preset found
    have united : (template.layOver ancestor).presets.get? id = some preset := by
      simp [layOver, found]
    exact ⟨preset, united⟩
  · intro id definition found
    change (template.parameters.table.union ancestor.parameters.table).get? id = some definition
    rw [Table.get?_union]
    change (template.parameters.get? id).or _ = _
    rw [found]
    rfl

/-- The ancestor's own preset may give way to another one, but there is one. -/
theorem ancestor_coveredBy_layOver
    (apart : template.ParametersApart ancestor) :
    ancestor.CoveredBy (template.layOver ancestor) := by
  constructor
  · intro id preset found
    have isKey : id ∈ ancestor.presets.keys := Table.mem_keys_iff.mpr ⟨preset, found⟩
    have inUnion : id ∈ (template.presets.union ancestor.presets).keys :=
      Table.mem_keys_union.mpr (Or.inr isKey)
    exact Table.mem_keys_iff.mp inUnion
  · intro id definition found
    exact (Table.get?_union_eq_some_iff apart).mpr (Or.inr found)

theorem holds_layOver_iff
    (apart : template.ContentApart ancestor)
    {keys ids : List String} :
    (template.layOver ancestor).Holds keys ids entry ↔
      template.Holds keys ids entry ∨ ancestor.Holds keys ids entry := by
  constructor
  · intro held
    obtain ⟨stored, below⟩ := held
    rcases (Table.get?_union_eq_some_iff apart).mp stored with own | inherited
    · exact Or.inl (.intro own below)
    · exact Or.inr (.intro inherited below)
  · intro held
    rcases held with own | inherited
    · obtain ⟨stored, below⟩ := own
      exact .intro ((Table.get?_union_eq_some_iff apart).mpr (Or.inl stored)) below
    · obtain ⟨stored, below⟩ := inherited
      exact .intro ((Table.get?_union_eq_some_iff apart).mpr (Or.inr stored)) below

/-! ## Checks -/

theorem validate_eq_ok_iff
    (filed : template.content.Forall Content.Filed) :
    template.validate = .ok () ↔
      template.parameters.validate = .ok () ∧
        ∀ keys ids entry, template.Holds keys ids entry → template.Intact entry := by
  rw [validate_eq_forM filed, within_eq_ok_iff, bind_eq_ok_iff, ← checkContent_eq_ok_iff filed]
  constructor
  · intro ⟨_, parameters, content⟩
    exact ⟨parameters, content⟩
  · intro ⟨parameters, content⟩
    exact ⟨(), parameters, content⟩

/-- Inheriting from a checked template keeps a checked template checked, unless
a society ID parameter of one of them derives a key that the other has as a
parameter.  In any case all entries of both stay intact, however deep. -/
theorem inherit_validates_iff
    (reachable : template.Reachable)
    (ancestorReachable : ancestor.Reachable)
    (checked : template.validate = .ok ())
    (ancestorChecked : ancestor.validate = .ok ())
    (made : template.inherit ancestor = .ok merged) :
    (merged.validate = .ok () ↔
        template.parameters.LeavesFree ancestor.parameters.keys ∧
          ancestor.parameters.LeavesFree template.parameters.keys) ∧
      (∀ keys ids entry, merged.Holds keys ids entry ↔
        template.Holds keys ids entry ∨ ancestor.Holds keys ids entry) ∧
      ∀ keys ids entry, merged.Holds keys ids entry → merged.Intact entry := by
  have mergedFiled := (Reachable.inherit reachable ancestorReachable made).filed
  have keyed : template.parameters.Keyed := reachable.parameters.keyed
  have ancestorKeyed : ancestor.parameters.Keyed := ancestorReachable.parameters.keyed
  obtain ⟨parameters, intact⟩ := (validate_eq_ok_iff reachable.filed).mp checked
  obtain ⟨ancestorParameters, ancestorIntact⟩ :=
    (validate_eq_ok_iff ancestorReachable.filed).mp ancestorChecked
  obtain ⟨contentApart, parametersApart, rfl⟩ := (inherit_eq_ok_iff ancestorKeyed).mp made
  have mergedIntact : ∀ keys ids entry,
      (template.layOver ancestor).Holds keys ids entry →
        (template.layOver ancestor).Intact entry := by
    intro keys ids entry held
    rcases (holds_layOver_iff contentApart).mp held with own | inherited
    · exact (intact keys ids entry own).of_coveredBy (coveredBy_layOver template ancestor)
    · exact (ancestorIntact keys ids entry inherited).of_coveredBy
        (ancestor_coveredBy_layOver parametersApart)
  have parameterCheck :=
    Parameter.Store.validate_union_iff keyed ancestorKeyed parametersApart parameters
      ancestorParameters
  refine ⟨?_, fun _ _ _ => holds_layOver_iff contentApart, mergedIntact⟩
  rw [validate_eq_ok_iff mergedFiled, ← parameterCheck]
  exact and_iff_left mergedIntact

end

private def parameterPair (name kind : String) (more : List (Yaml.Value × Yaml.Value)) :
    Yaml.Value × Yaml.Value :=
  (.string name, .mapping
    ([(.string "type", .string kind), (.string "description", .string name)] ++ more))

/-- A sheet with a society ID below whose trigger a text takes a preset, a base
with a choice, and a rival that defines a key which the society ID derives. -/
def sheetBaseClash : List Record :=
  [{ Record.empty with
      id := some "sheet"
      description := some "Sheet"
      content := some [(.string "registered", .mapping [(.string "type", .string "trigger"),
        (.string "trigger", .string "society"),
        (.string "content", .mapping [
          (.string "number", .mapping [(.string "type", .string "text"),
            (.string "presets", .sequence [.string "bold"])])])])]
      presets := some [(.string "bold", .mapping [(.string "type", .string "text")])]
      parameters := some
        [parameterPair "society" "societyid" [(.string "example", .string "1-2")]] },
    { Record.empty with
      id := some "base"
      description := some "Base"
      content := some [(.string "mark", .mapping [(.string "type", .string "choice"),
        (.string "choices", .string "faction"),
        (.string "content", .mapping [(.string "Vigilant Seal", .null)])])]
      parameters := some [parameterPair "faction" "choice"
        [(.string "example", .string "Vigilant Seal"),
          (.string "choices", .sequence [.string "Grand Archive", .string "Vigilant Seal"])]] },
    { Record.empty with
      id := some "rival"
      description := some "Rival"
      parameters := some
        [parameterPair "society.char" "text" [(.string "example", .string "1")]] }]

theorem inherit_validates_iff_sheetBaseClash :
    ∃ sheet base rival merged clashing fault,
      ofRecord "sheet.yml" sheetBaseClash[0] = .ok sheet ∧
      ofRecord "base.yml" sheetBaseClash[1] = .ok base ∧
      ofRecord "rival.yml" sheetBaseClash[2] = .ok rival ∧
      sheet.validate = .ok () ∧ base.validate = .ok () ∧ rival.validate = .ok () ∧
      sheet.inherit base = .ok merged ∧ merged.validate = .ok () ∧
      sheet.parameters.LeavesFree base.parameters.keys ∧
      base.parameters.LeavesFree sheet.parameters.keys ∧
      (∀ keys ids entry, base.Holds keys ids entry → merged.Intact entry) ∧
      sheet.inherit rival = .ok clashing ∧ clashing.validate = .error fault ∧
      fault.message = "template 'sheet': parameter 'society': " ++
        "validation error: derived argument 'society.char' is also defined as a parameter" ∧
      ¬ (sheet.parameters.LeavesFree rival.parameters.keys ∧
        rival.parameters.LeavesFree sheet.parameters.keys) := by
  obtain ⟨⟨_, _, _, _, _⟩, steps⟩ := exists_of_isOk
    (ofRecord "sheet.yml" sheetBaseClash[0] >>= fun sheet =>
      ofRecord "base.yml" sheetBaseClash[1] >>= fun base =>
        ofRecord "rival.yml" sheetBaseClash[2] >>= fun rival =>
          sheet.validate >>= fun _ => base.validate >>= fun _ => rival.validate >>= fun _ =>
            sheet.inherit base >>= fun merged => merged.validate >>= fun _ =>
              sheet.inherit rival >>= fun clashing => .ok (sheet, base, rival, merged, clashing))
    (by decide +kernel)
  simp only [bind_eq_ok_iff, Except.ok.injEq, Prod.mk.injEq] at steps
  obtain ⟨sheet, isSheet, base, isBase, rival, isRival, ⟨⟩, sheetChecked, ⟨⟩, baseChecked, ⟨⟩,
    rivalChecked, merged, isMerged, ⟨⟩, mergedChecked, clashing, isClashing, rfl, rfl, rfl, rfl,
    rfl⟩ := steps
  have raised :
      (faultOf? (ofRecord "sheet.yml" sheetBaseClash[0] >>= fun sheet =>
        ofRecord "rival.yml" sheetBaseClash[2] >>= fun rival =>
          sheet.inherit rival >>= fun clashing => clashing.validate)).map Fault.message =
        some ("template 'sheet': parameter 'society': " ++
          "validation error: derived argument 'society.char' is also defined as a parameter") := by
    decide +kernel
  simp only [isSheet, isRival, isClashing, bind, Except.bind] at raised
  obtain ⟨fault, isFault, message⟩ := Option.map_eq_some_iff.mp raised
  have failed : clashing.validate = .error fault := faultOf?_eq_some_iff.mp isFault
  have sheetReachable : sheet.Reachable := .ofRecord isSheet
  obtain ⟨baseCheck, held, intact⟩ :=
    inherit_validates_iff sheetReachable (.ofRecord isBase) sheetChecked baseChecked isMerged
  obtain ⟨rivalCheck, _, _⟩ :=
    inherit_validates_iff sheetReachable (.ofRecord isRival) sheetChecked rivalChecked isClashing
  obtain ⟨sheetFree, baseFree⟩ := baseCheck.mp mergedChecked
  have baseIntact : ∀ keys ids entry, base.Holds keys ids entry → merged.Intact entry := by
    intro keys ids entry inherited
    exact intact keys ids entry ((held keys ids entry).mpr (Or.inr inherited))
  have notFree : ¬ (sheet.parameters.LeavesFree rival.parameters.keys ∧
      rival.parameters.LeavesFree sheet.parameters.keys) := by
    intro free
    have passed := rivalCheck.mpr free
    rw [failed] at passed
    cases passed
  exact ⟨sheet, base, rival, merged, clashing, fault, isSheet, isBase, isRival, sheetChecked,
    baseChecked, rivalChecked, isMerged, mergedChecked, sheetFree, baseFree, baseIntact,
    isClashing, failed, message, notFree⟩

end Template

end Chronicle
