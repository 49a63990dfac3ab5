import Mathlib.Data.List.Perm.Basic
import Chronicle.Content.Decode
import Chronicle.Proofs.Paired
import Chronicle.Proofs.Yaml.Shape

/-!
# What the fields of an entry give

Every field takes values of one form and ends as one datum of the entry.  A
field that is not given is unset, and so are all fields of other kinds.
-/

namespace Chronicle.Content

open Decimal (Binary64)
open Yaml (Value)
open Yaml.Shape (AreTexts Independent IsFloat IsNatural IsOptional IsText Names)

/-! ## Data -/

inductive Datum
  | text (given : Option String)
  | float (given : Option Binary64)
  | natural (given : Option Nat)
  | texts (given : List String)
  deriving DecidableEq

/-- What values a field takes. -/
inductive Form
  | text
  | float
  | natural
  | texts

inductive Form.Gives : Form → Value → Datum → Prop
  | text {value : Value} {given : Option String}
      (is : IsOptional IsText value given) :
      Gives .text value (.text given)
  | float {value : Value} {given : Option Binary64}
      (is : IsOptional IsFloat value given) :
      Gives .float value (.float given)
  | natural {value : Value} {given : Option Nat}
      (is : IsOptional IsNatural value given) :
      Gives .natural value (.natural given)
  | texts {value : Value} {given : List String}
      (are : AreTexts value given) :
      Gives .texts value (.texts given)

namespace Field

def form : Field → Form
  | desc | value | font | align | color | trigger | choices => .text
  | x | y | x2 | y2 | fontsize | transparency => .float
  | lines => .natural
  | presets => .texts

def Gives (field : Field) (value : Value) (datum : Datum) : Prop :=
  field.form.Gives value datum

theorem name_injective
    (field other : Field) (same : field.name = other.name) :
    field = other := by
  cases field <;> cases other <;> first | rfl | simp [name] at same

theorem name_ne_type (field : Field) : field.name ≠ "type" := by
  cases field <;> simp [name]

theorem name_ne_content (field : Field) : field.name ≠ "content" := by
  cases field <;> simp [name]

end Field

namespace Draft

def datum (draft : Draft) : Field → Datum
  | .desc => .text draft.fields.desc
  | .presets => .texts draft.presets
  | .value => .text draft.fields.value
  | .x => .float draft.fields.x
  | .y => .float draft.fields.y
  | .x2 => .float draft.fields.x2
  | .y2 => .float draft.fields.y2
  | .font => .text draft.fields.font
  | .fontsize => .float draft.fields.fontsize
  | .align => .text draft.fields.align
  | .color => .text draft.fields.color
  | .lines => .natural draft.fields.lines
  | .transparency => .float draft.fields.transparency
  | .trigger => .text draft.fields.trigger
  | .choices => .text draft.fields.choices

theorem ext_datum
    {draft other : Draft}
    (same : ∀ field, draft.datum field = other.datum field) :
    draft = other := by
  obtain ⟨fields, presets⟩ := draft
  obtain ⟨otherFields, otherPresets⟩ := other
  have samePresets : presets = otherPresets := Datum.texts.inj (same .presets)
  have sameFields : fields = otherFields := by
    cases fields
    cases otherFields
    rw [Fields.mk.injEq]
    exact ⟨Datum.text.inj (same .desc), Datum.text.inj (same .value), Datum.float.inj (same .x),
      Datum.float.inj (same .y), Datum.float.inj (same .x2), Datum.float.inj (same .y2),
      Datum.text.inj (same .font), Datum.float.inj (same .fontsize), Datum.text.inj (same .align),
      Datum.text.inj (same .color), Datum.float.inj (same .transparency),
      Datum.natural.inj (same .lines), Datum.text.inj (same .trigger),
      Datum.text.inj (same .choices)⟩
  rw [sameFields, samePresets]

/-! ## Reading -/

theorem textField_eq_ok_iff
    {value : Value} {given : Option String} :
    read.textField value = .ok given ↔ IsOptional IsText value given :=
  Yaml.Shape.optional_eq_ok_iff fun _ _ => Yaml.Shape.text_eq_ok_iff

theorem floatField_eq_ok_iff
    {value : Value} {given : Option Binary64} :
    read.floatField value = .ok given ↔ IsOptional IsFloat value given :=
  Yaml.Shape.optional_eq_ok_iff fun _ _ => Yaml.Shape.float_eq_ok_iff

theorem naturalField_eq_ok_iff
    {value : Value} {given : Option Nat} :
    Yaml.Shape.optional Yaml.Shape.natural value = .ok given ↔ IsOptional IsNatural value given :=
  Yaml.Shape.optional_eq_ok_iff fun _ _ => Yaml.Shape.natural_eq_ok_iff

theorem read_independent : Independent read datum Field.Gives where
  gives := by
    intro field value draft next given
    cases field <;>
    · simp only [read, bind_eq_ok_iff, textField_eq_ok_iff, floatField_eq_ok_iff,
        naturalField_eq_ok_iff, Yaml.Shape.texts_eq_ok_iff] at given
      obtain ⟨_, is, made⟩ := given
      cases made
      constructor
      exact is
  others := by
    intro field value draft next given other different
    cases field <;>
    · simp only [read, bind_eq_ok_iff] at given
      obtain ⟨_, _, made⟩ := given
      cases made
      cases other <;> first | rfl | exact absurd rfl different
  readable := by
    intro field value draft given gives
    cases field <;>
    · cases gives
      rename_i is
      simp only [read, bind_eq_ok_iff, textField_eq_ok_iff, floatField_eq_ok_iff,
        naturalField_eq_ok_iff, Yaml.Shape.texts_eq_ok_iff]
      exact ⟨_, ⟨_, is, rfl⟩, rfl⟩
  ext := fun _ _ => ext_datum

end Draft

/-! ## Entries -/

namespace Field

/-- What a field is that is not given. -/
def unset (field : Field) : Datum :=
  Draft.empty.datum field

end Field

namespace Entry

/-- The data of the entry, fields of other kinds included. -/
def draft (entry : Entry) : Draft :=
  ⟨entry.fields, entry.presets⟩

def datum (entry : Entry) (field : Field) : Datum :=
  entry.draft.datum field

/-- The nested content, if entries of the kind have any. -/
def block : Entry → Option Block
  | trigger _ _ content => some (.entries content)
  | choice _ _ content => some (.choices content)
  | _ => none

end Entry

/-- The block of an entry without nested content. -/
def Kind.emptyBlock : Kind → Option Block
  | trigger => some (.entries [])
  | choice => some (.choices [])
  | _ => none

theorem datum_entry (draft : Draft) (kind : Kind) (id : String) (field : Field) :
    (draft.entry kind id).datum field =
      if field ∈ kind.fields then draft.datum field else field.unset := by
  cases kind <;> cases field <;> rfl

@[simp]
theorem kind_entry (draft : Draft) (kind : Kind) (id : String) :
    (draft.entry kind id).kind = kind := by
  cases kind <;> rfl

@[simp]
theorem id_entry (draft : Draft) (kind : Kind) (id : String) :
    (draft.entry kind id).id = id := by
  cases kind <;> rfl

@[simp]
theorem block_entry (draft : Draft) (kind : Kind) (id : String) :
    (draft.entry kind id).block = kind.emptyBlock := by
  cases kind <;> rfl

theorem restored (entry : Entry) :
    entry.block.elim (entry.draft.entry entry.kind entry.id)
      (entry.draft.entry entry.kind entry.id).withBlock = entry := by
  cases entry <;> rfl

/-- An entry is made of its kind, its ID, its data and its nested content. -/
theorem Entry.ext_parts
    {entry other : Entry}
    (kind : entry.kind = other.kind)
    (id : entry.id = other.id)
    (draft : entry.draft = other.draft)
    (block : entry.block = other.block) :
    entry = other := by
  rw [← restored entry, ← restored other, kind, id, draft, block]

@[simp]
theorem draft_draft_entry (entry : Entry) :
    (entry.draft.entry entry.kind entry.id).draft = entry.draft := by
  cases entry <;> rfl

@[simp]
theorem kind_withBlock (entry : Entry) (block : Block) :
    (entry.withBlock block).kind = entry.kind := by
  cases entry <;> cases block <;> rfl

@[simp]
theorem draft_withBlock (entry : Entry) (block : Block) :
    (entry.withBlock block).draft = entry.draft := by
  cases entry <;> cases block <;> rfl

/-! ## The fields of one entry -/

/-- An entry of the kind with what the pairs give, each of them one field of the
kind, and nothing else. -/
structure Own (kind : Kind) (id : String) (own : List (Value × Value)) (entry : Entry) :
    Prop where
  ofKind : entry.kind = kind
  ofId : entry.id = id
  fields : ∃ given : List Field, given.Nodup ∧
    List.Forall₂ (fun pair field => Names Field.name pair.1 field ∧ field ∈ kind.fields ∧
      field.Gives pair.2 (entry.datum field)) own given ∧
    ∀ field, field ∉ given → entry.datum field = field.unset

/-- Own pairs are neither the type nor nested content. -/
theorem Own.other_keys
    {kind : Kind} {id : String} {own : List (Value × Value)} {entry : Entry}
    (isOwn : Own kind id own entry) :
    ∀ pair ∈ own, pair.1 ≠ .string "type" ∧ pair.1 ≠ .string "content" := by
  obtain ⟨given, _, all, _⟩ := isOwn.fields
  intro pair member
  obtain ⟨field, _, named, _, _⟩ := Paired.exists_right all member
  constructor
  · intro isType
    rw [Names, isType] at named
    exact field.name_ne_type (Value.string.inj named).symm
  · intro isContent
    rw [Names, isContent] at named
    exact field.name_ne_content (Value.string.inj named).symm

theorem Own.perm
    {kind : Kind} {id : String} {own others : List (Value × Value)} {entry : Entry}
    (isOwn : Own kind id own entry)
    (perm : own.Perm others) :
    Own kind id others entry := by
  obtain ⟨given, nodup, all, unset⟩ := isOwn.fields
  obtain ⟨moved, allMoved, movedPerm⟩ := List.perm_comp_forall₂ perm.symm all
  refine ⟨isOwn.ofKind, isOwn.ofId, moved, movedPerm.nodup_iff.mpr nodup, allMoved, ?_⟩
  intro field absent
  exact unset field fun isGiven => absent (movedPerm.mem_iff.mpr isGiven)

/-- The nested content does not matter. -/
theorem Own.congr
    {kind : Kind} {id : String} {own : List (Value × Value)} {entry other : Entry}
    (isOwn : Own kind id own entry)
    (sameKind : other.kind = entry.kind)
    (sameId : other.id = entry.id)
    (sameDraft : other.draft = entry.draft) :
    Own kind id own other := by
  have sameDatum : other.datum = entry.datum := by
    funext field
    rw [Entry.datum, sameDraft, ← Entry.datum]
  refine ⟨sameKind.trans isOwn.ofKind, sameId.trans isOwn.ofId, ?_⟩
  rw [sameDatum]
  exact isOwn.fields

theorem fields_eq_ok_iff_own
    {kind : Kind} {id : String} {own : List (Value × Value)} {draft : Draft} :
    Yaml.Shape.fields kind.fields Field.name Draft.read own [] Draft.empty = .ok draft ↔
      Own kind id own (draft.entry kind id) ∧ (draft.entry kind id).draft = draft := by
  rw [Yaml.Shape.fields_eq_ok_iff Draft.read_independent Field.name_injective]
  constructor
  · rintro ⟨given, all, nodup, _, unset⟩
    have known : ∀ field ∈ given, field ∈ kind.fields := by
      intro field isGiven
      obtain ⟨_, _, _, isKnown, _⟩ := Paired.exists_left all isGiven
      exact isKnown
    have same : ∀ field, (draft.entry kind id).datum field = draft.datum field := by
      intro field
      rw [datum_entry]
      by_cases isKnown : field ∈ kind.fields
      · rw [if_pos isKnown]
      · rw [if_neg isKnown]
        exact (unset field fun isGiven => isKnown (known field isGiven)).symm
    refine ⟨⟨kind_entry .., id_entry .., given, nodup, ?_, ?_⟩, Draft.ext_datum same⟩
    · simpa only [same] using all
    · intro field absent
      rw [same]
      exact unset field absent
  · rintro ⟨⟨_, _, given, nodup, all, unset⟩, same⟩
    rw [← same]
    exact ⟨given, all, nodup, by simp, unset⟩

theorem ownEntry_eq_ok_iff
    {kind : Kind} {id : String} {pairs : List (Value × Value)} {entry : Entry} :
    ownEntry kind id pairs = .ok entry ↔
      Own kind id (ownPairs kind pairs) entry ∧ entry.block = kind.emptyBlock := by
  constructor
  · intro read
    rw [ownEntry] at read
    split at read
    · rename_i draft run
      cases read
      exact ⟨(fields_eq_ok_iff_own.mp run).1, block_entry ..⟩
    · cases read
  · rintro ⟨isOwn, block⟩
    have same : entry.draft.entry kind id = entry := by
      rw [← isOwn.ofKind, ← isOwn.ofId]
      rw [← isOwn.ofKind] at block
      exact Entry.ext_parts (kind_entry ..) (id_entry ..) (draft_draft_entry entry)
        ((block_entry ..).trans block.symm)
    have run : Yaml.Shape.fields kind.fields Field.name Draft.read (ownPairs kind pairs) []
        Draft.empty = .ok entry.draft := by
      apply fields_eq_ok_iff_own.mpr
      rw [same]
      exact ⟨isOwn, rfl⟩
    simp only [ownEntry, run, same]

end Chronicle.Content
