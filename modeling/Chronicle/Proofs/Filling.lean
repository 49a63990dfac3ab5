import Chronicle.Proofs.Content.Field
import Chronicle.Proofs.Recorded

/-!
# What presets fill

Entries of different kinds have different scalar fields.  An entry that is
filled from presets, one after the other, has in each of its fields the value of
the first among itself and the presets that has the field and sets it, whatever
their kinds.  Nothing else of it changes.
-/

namespace Chronicle

namespace Content

/-! ## Scalar fields -/

inductive Scalar
  | text (text : String)
  | float (float : Decimal.Binary64)
  | natural (natural : Nat)
  deriving DecidableEq

/-- All fields of the kind but the list of presets. -/
def Kind.scalarFields (kind : Kind) : List Field :=
  kind.fields.filter fun field => field != .presets

namespace Entry

/-- The scalar fields of boxes with text in them. -/
def writtenScalars (heading : Heading) (area : Area) (lettering : Lettering) :
    List (Field × Option Scalar) :=
  [(.desc, heading.desc.map .text), (.value, lettering.value.map .text),
    (.x, area.x.map .float), (.y, area.y.map .float),
    (.x2, area.x2.map .float), (.y2, area.y2.map .float),
    (.font, lettering.font.map .text), (.fontsize, lettering.fontsize.map .float),
    (.align, lettering.align.map .text), (.color, lettering.color.map .text)]

/-- The scalar fields that the entry has, each with its value if it is set. -/
def scalars : Entry → List (Field × Option Scalar)
  | text heading area lettering => writtenScalars heading area lettering
  | multiline heading area lettering lines =>
      writtenScalars heading area lettering ++ [(.lines, lines.map .natural)]
  | rectangle heading area color transparency =>
      [(.desc, heading.desc.map .text), (.x, area.x.map .float), (.y, area.y.map .float),
        (.x2, area.x2.map .float), (.y2, area.y2.map .float), (.color, color.map .text),
        (.transparency, transparency.map .float)]
  | trigger heading parameter _ =>
      [(.desc, heading.desc.map .text), (.trigger, parameter.map .text)]
  | choice heading parameter _ =>
      [(.desc, heading.desc.map .text), (.choices, parameter.map .text)]

/-- The value of a scalar field, if the entry has the field and sets it. -/
def setting? (entry : Entry) (field : Field) : Option Scalar :=
  (entry.scalars.lookup field).join

theorem map_fst_scalars (entry : Entry) :
    entry.scalars.map Prod.fst = entry.kind.scalarFields := by
  cases entry <;> rfl

theorem map_setting?_scalars (entry : Entry) :
    (entry.scalars.map fun scalar => (scalar.1, entry.setting? scalar.1)) = entry.scalars := by
  cases entry <;> rfl

end Entry

/-! ## Records of all fields -/

def Datum.scalar? : Datum → Option Scalar
  | text given => given.map .text
  | float given => given.map .float
  | natural given => given.map .natural
  | texts _ => none

def Fields.setting? (fields : Fields) (field : Field) : Option Scalar :=
  ((Draft.mk fields []).datum field).scalar?

theorem Fields.setting?_orElse (own fallback : Fields) (field : Field) :
    (own.orElse fallback).setting? field =
      (own.setting? field).or (fallback.setting? field) := by
  cases field with
  | presets => rfl
  | _ => exact Option.map_or

/-- An entry exports exactly what it sets. -/
theorem setting?_fields (entry : Entry) (field : Field) :
    entry.fields.setting? field = entry.setting? field := by
  cases entry <;> cases field <;> rfl

theorem scalars_withFields (entry : Entry) (fields : Fields) :
    (entry.withFields fields).scalars =
      entry.scalars.map fun scalar => (scalar.1, fields.setting? scalar.1) := by
  cases entry <;> rfl

theorem lookup_map_of_mem
    {scalars : List (Field × Option Scalar)} {field : Field}
    (has : field ∈ scalars.map Prod.fst)
    (value : Field → Option Scalar) :
    (scalars.map fun scalar => (scalar.1, value scalar.1)).lookup field = some (value field) := by
  induction scalars with
  | nil => cases has
  | cons head rest inductionHypothesis =>
      rw [List.map_cons, List.lookup_cons]
      by_cases same : field = head.1
      · simp [same]
      · have inRest : field ∈ rest.map Prod.fst := (List.mem_cons.mp has).resolve_left same
        have different : (field == head.1) = false := beq_eq_false_iff_ne.mpr same
        rw [different]
        exact inductionHypothesis inRest

/-- Data of a scalar field are told apart by their values. -/
theorem datum_eq_of_scalar?_eq
    {draft other : Draft} {field : Field}
    (scalar : field ≠ .presets)
    (same : (draft.datum field).scalar? = (other.datum field).scalar?) :
    draft.datum field = other.datum field := by
  have sameText : ∀ text other, Scalar.text text = .text other → text = other :=
    fun _ _ => Scalar.text.inj
  have sameFloat : ∀ float other, Scalar.float float = .float other → float = other :=
    fun _ _ => Scalar.float.inj
  have sameNatural : ∀ natural other, Scalar.natural natural = .natural other → natural = other :=
    fun _ _ => Scalar.natural.inj
  cases field with
  | presets => exact absurd rfl scalar
  | desc | value | font | align | color | trigger | choices =>
      exact congrArg Datum.text ((Option.map_inj_right sameText).mp same)
  | x | y | x2 | y2 | fontsize | transparency =>
      exact congrArg Datum.float ((Option.map_inj_right sameFloat).mp same)
  | lines => exact congrArg Datum.natural ((Option.map_inj_right sameNatural).mp same)

namespace Entry

/-- An entry is made of its kind, its ID, its presets, its nested content and
what it sets. -/
theorem ext_scalars
    {entry other : Entry}
    (kind : entry.kind = other.kind)
    (id : entry.id = other.id)
    (presets : entry.presets = other.presets)
    (block : entry.block = other.block)
    (scalars : entry.scalars = other.scalars) :
    entry = other := by
  have draft : entry.draft = other.draft := by
    apply Draft.ext_datum
    intro field
    by_cases isPresets : field = .presets
    · subst isPresets
      exact congrArg Datum.texts presets
    · apply datum_eq_of_scalar?_eq isPresets
      have sameSetting : entry.fields.setting? field = other.fields.setting? field := by
        rw [setting?_fields, setting?_fields, setting?, setting?, scalars]
      cases field <;> exact sameSetting
  exact ext_parts kind id draft block

/-! ## Filling -/

@[simp]
theorem kind_fill (entry preset : Entry) : (entry.fill preset).kind = entry.kind := by
  cases entry <;> rfl

@[simp]
theorem presets_fill (entry preset : Entry) : (entry.fill preset).presets = entry.presets := by
  cases entry <;> rfl

@[simp]
theorem block_fill (entry preset : Entry) : (entry.fill preset).block = entry.block := by
  cases entry <;> rfl

theorem scalars_fill (entry preset : Entry) :
    (entry.fill preset).scalars = entry.scalars.map fun scalar =>
      (scalar.1, (entry.setting? scalar.1).or (preset.setting? scalar.1)) := by
  rw [fill, scalars_withFields]
  simp only [Fields.setting?_orElse, setting?_fields]

theorem setting?_fill
    {entry : Entry} {field : Field}
    (has : field ∈ entry.scalars.map Prod.fst)
    (preset : Entry) :
    (entry.fill preset).setting? field = (entry.setting? field).or (preset.setting? field) := by
  rw [setting?, scalars_fill,
    lookup_map_of_mem has fun field => (entry.setting? field).or (preset.setting? field)]
  rfl

/-- The entry with every scalar field as the first that sets it has it, among
the entry and then the presets in their order. -/
structure FilledFrom (sources : List Entry) (entry filled : Entry) : Prop where
  kind : filled.kind = entry.kind
  id : filled.id = entry.id
  presets : filled.presets = entry.presets
  block : filled.block = entry.block
  scalars : filled.scalars = entry.scalars.map fun scalar =>
    (scalar.1, (entry :: sources).findSome? fun source => source.setting? scalar.1)

theorem FilledFrom.unique
    {sources : List Entry} {entry filled other : Entry}
    (isFilled : FilledFrom sources entry filled)
    (isOther : FilledFrom sources entry other) :
    filled = other := by
  apply ext_scalars
  · rw [isFilled.kind, isOther.kind]
  · rw [isFilled.id, isOther.id]
  · rw [isFilled.presets, isOther.presets]
  · rw [isFilled.block, isOther.block]
  · rw [isFilled.scalars, isOther.scalars]

theorem filledFrom_nil (entry : Entry) : FilledFrom [] entry entry := by
  have alone : ∀ field,
      ([entry].findSome? fun source => source.setting? field) = entry.setting? field := by
    intro field
    rw [List.findSome?_cons]
    cases entry.setting? field <;> rfl
  refine ⟨rfl, rfl, rfl, rfl, ?_⟩
  simp only [alone]
  exact (map_setting?_scalars entry).symm

/-- One more preset in front only matters to the fields that the entry leaves
open. -/
theorem FilledFrom.cons
    {sources : List Entry} {entry preset filled : Entry}
    (isFilled : FilledFrom sources (entry.fill preset) filled) :
    FilledFrom (preset :: sources) entry filled := by
  have sameSource : ∀ scalar ∈ entry.scalars,
      ((entry.fill preset :: sources).findSome? fun source => source.setting? scalar.1) =
        (entry :: preset :: sources).findSome? fun source => source.setting? scalar.1 := by
    intro scalar member
    have has : scalar.1 ∈ entry.scalars.map Prod.fst := List.mem_map_of_mem member
    rw [List.findSome?_cons, List.findSome?_cons, List.findSome?_cons, setting?_fill has]
    cases entry.setting? scalar.1 <;> rfl
  constructor
  · rw [isFilled.kind, kind_fill]
  · rw [isFilled.id, id_fill]
  · rw [isFilled.presets, presets_fill]
  · rw [isFilled.block, block_fill]
  · rw [isFilled.scalars, scalars_fill, List.map_map]
    apply List.map_congr_left
    intro scalar member
    exact congrArg (Prod.mk scalar.1) (sameSource scalar member)

theorem filledFrom_foldl (sources : List Entry) (entry : Entry) :
    FilledFrom sources entry (sources.foldl fill entry) := by
  induction sources generalizing entry with
  | nil => exact filledFrom_nil entry
  | cons preset rest inductionHypothesis =>
      exact (inductionHypothesis (entry.fill preset)).cons

theorem filledFrom_iff
    {sources : List Entry} {entry filled : Entry} :
    FilledFrom sources entry filled ↔ sources.foldl fill entry = filled := by
  constructor
  · intro isFilled
    exact (filledFrom_foldl sources entry).unique isFilled
  · intro result
    rw [← result]
    exact filledFrom_foldl sources entry

/-- A second filling from the same preset finds nothing to fill. -/
theorem fill_fill (entry preset : Entry) :
    (entry.fill preset).fill preset = entry.fill preset := by
  have once : FilledFrom [preset] entry (entry.fill preset) := filledFrom_foldl [preset] entry
  have twice : FilledFrom [preset, preset] entry ((entry.fill preset).fill preset) :=
    filledFrom_foldl [preset, preset] entry
  have sameSource : ∀ field,
      ([entry, preset, preset].findSome? fun source => source.setting? field) =
        [entry, preset].findSome? fun source => source.setting? field := by
    intro field
    simp only [List.findSome?_cons]
    cases preset.setting? field <;> rfl
  have already : FilledFrom [preset, preset] entry (entry.fill preset) := by
    refine ⟨once.kind, once.id, once.presets, once.block, ?_⟩
    simp only [sameSource]
    exact once.scalars
  exact twice.unique already

end Entry

end Content

/-! ## The default preset -/

namespace Template

open Content (Entry)

theorem get?_content_of_default
    {locator : String} {record : Record} {template : Template} {preset : Entry}
    (made : ofRecord locator record = .ok template)
    (isDefault : template.presets.get? defaultPreset = some preset) :
    ∃ decoded, Content.decodeMap (record.content.getD []) = .ok decoded ∧
      template.content.keys = decoded.keys ∧
      ∀ id, template.content.get? id = (decoded.get? id).map fun own => own.fill preset := by
  have recorded : Recorded locator record template := ofRecord_eq_ok_iff.mp made
  obtain ⟨decoded, isDecoded, isFilled⟩ := recorded.content
  rw [fillContent, isDefault] at isFilled
  refine ⟨decoded, isDecoded, ?_, ?_⟩
  · rw [isFilled]
    exact Table.keys_mapValues _ decoded
  · intro id
    rw [isFilled]
    exact Table.get?_mapValues _ decoded id

/-- Presets of any kinds fill an entry of any kind field by field, the first
that sets a field first, and the default preset fills the entries of its own
template in this way, each once and for all. -/
theorem fill_takes_first_set :
    (∀ entry : Entry, entry.scalars.map Prod.fst = entry.kind.scalarFields) ∧
      (∀ (presets : List Entry) (entry filled : Entry),
        presets.foldl Entry.fill entry = filled ↔ entry.FilledFrom presets filled) ∧
      ∀ (locator : String) (record : Record) (template : Template) (preset : Entry),
        ofRecord locator record = .ok template →
        template.presets.get? "default" = some preset →
          Content.decodeMap (record.presets.getD []) = .ok template.presets ∧
            ∃ decoded, Content.decodeMap (record.content.getD []) = .ok decoded ∧
              template.content.keys = decoded.keys ∧
              ∀ id own, decoded.get? id = some own →
                ∃ filled, template.content.get? id = some filled ∧
                  own.FilledFrom [preset] filled ∧ filled.fill preset = filled := by
  refine ⟨Entry.map_fst_scalars, ?_, ?_⟩
  · intro presets entry filled
    exact Entry.filledFrom_iff.symm
  · intro locator record template preset made isDefault
    have recorded : Recorded locator record template := ofRecord_eq_ok_iff.mp made
    obtain ⟨decoded, isDecoded, sameKeys, found⟩ := get?_content_of_default made isDefault
    refine ⟨recorded.presets, decoded, isDecoded, sameKeys, ?_⟩
    intro id own isOwn
    refine ⟨own.fill preset, ?_, Entry.filledFrom_foldl [preset] own, Entry.fill_fill own preset⟩
    rw [found id, isOwn]
    rfl

/-- A default preset for several lines of text.  The title has an empty font and
stands at zero, and the mark nests a text of its own. -/
def titledSheet : Record :=
  { Record.empty with
    id := some "sheet"
    description := some "Sheet"
    content := some [
      (.string "title", .mapping [(.string "type", .string "text"),
        (.string "x", .number (.integer 0)), (.string "font", .string "")]),
      (.string "mark", .mapping [(.string "type", .string "trigger"),
        (.string "content", .mapping [
          (.string "number", .mapping [(.string "type", .string "text")])])])]
    presets := some [
      (.string "default", .mapping [(.string "type", .string "multiline"),
        (.string "desc", .string "Printed"), (.string "x", .number (.integer 12)),
        (.string "y", .number (.integer 30)), (.string "font", .string "Helvetica"),
        (.string "lines", .number (.integer 3))])] }

theorem fill_takes_first_set_titledSheet :
    ∃ sheet preset title mark,
      ofRecord "sheet.yml" titledSheet = .ok sheet ∧
      sheet.presets.get? "default" = some preset ∧
      sheet.content.get? "title" = some title ∧
      title.scalars = [(.desc, some (.text "Printed")), (.value, none),
        (.x, some (.float (Decimal.Binary64.ofInt 0))),
        (.y, some (.float (Decimal.Binary64.ofInt 30))), (.x2, none), (.y2, none),
        (.font, some (.text "")), (.fontsize, none), (.align, none), (.color, none)] ∧
      title.fill preset = title ∧
      sheet.content.get? "mark" = some mark ∧
      mark.scalars = [(.desc, some (.text "Printed")), (.trigger, none)] ∧
      mark.nested.map Entry.scalars =
        [(Content.Kind.scalarFields .text).map fun field => (field, none)] ∧
      mark.fill preset = mark := by
  obtain ⟨sheet, made⟩ := exists_of_isOk (ofRecord "sheet.yml" titledSheet) (by decide +kernel)
  have presetGiven :
      ((ofRecord "sheet.yml" titledSheet).toOption.bind fun sheet =>
        sheet.presets.get? "default").isSome = true := by
    decide +kernel
  have entriesGiven :
      (Content.decodeMap (titledSheet.content.getD [])).toOption.map Table.keys =
        some ["mark", "title"] := by
    decide +kernel
  have scalars :
      ((ofRecord "sheet.yml" titledSheet).toOption.map fun sheet =>
        [(sheet.content.get? "title").map Entry.scalars,
          (sheet.content.get? "mark").map Entry.scalars]) =
        some [
          some [(.desc, some (.text "Printed")), (.value, none),
            (.x, some (.float (Decimal.Binary64.ofInt 0))),
            (.y, some (.float (Decimal.Binary64.ofInt 30))), (.x2, none), (.y2, none),
            (.font, some (.text "")), (.fontsize, none), (.align, none), (.color, none)],
          some [(.desc, some (.text "Printed")), (.trigger, none)]] := by
    decide +kernel
  have nestedScalars :
      ((ofRecord "sheet.yml" titledSheet).toOption.bind fun sheet =>
        (sheet.content.get? "mark").map fun mark => mark.nested.map Entry.scalars) =
        some [(Content.Kind.scalarFields .text).map fun field => (field, none)] := by
    decide +kernel
  rw [made] at presetGiven scalars nestedScalars
  obtain ⟨preset, isDefault⟩ := Option.isSome_iff_exists.mp presetGiven
  obtain ⟨_, decoded, isDecoded, _, filled⟩ :=
    fill_takes_first_set.2.2 "sheet.yml" titledSheet sheet preset made isDefault
  rw [isDecoded] at entriesGiven
  have keys : decoded.keys = ["mark", "title"] := Option.some.inj entriesGiven
  obtain ⟨ownTitle, isOwnTitle⟩ : ∃ own, decoded.get? "title" = some own :=
    Table.mem_keys_iff.mp (by simp [keys])
  obtain ⟨ownMark, isOwnMark⟩ : ∃ own, decoded.get? "mark" = some own :=
    Table.mem_keys_iff.mp (by simp [keys])
  obtain ⟨title, isTitle, _, titleStays⟩ := filled "title" ownTitle isOwnTitle
  obtain ⟨mark, isMark, _, markStays⟩ := filled "mark" ownMark isOwnMark
  simp only [Except.toOption, Option.map_some, Option.bind_some, isTitle, isMark,
    Option.some.injEq, List.cons.injEq, and_true] at scalars nestedScalars
  exact ⟨sheet, preset, title, mark, made, isDefault, isTitle, scalars.1, titleStays, isMark,
    scalars.2, nestedScalars, markStays⟩

end Template

end Chronicle
