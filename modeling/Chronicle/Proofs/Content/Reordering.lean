import Chronicle.Proofs.Content.Grammar

/-!
# The order of pairs

Values that differ in the order of pairs are decoded alike, at whatever depth
they differ: the grammar takes pairs in any order, and nested entries are
arranged by their IDs.
-/

namespace Chronicle

open Yaml (Value)

namespace Yaml

/-! ## Values of fields -/

namespace Value

/-- Values without parts. -/
inductive Scalar : Value → Prop
  | null : Scalar .null
  | bool (flag : Bool) : Scalar (.bool flag)
  | number (amount : Number) : Scalar (.number amount)
  | string (text : String) : Scalar (.string text)

theorem Reordered.eq_of_scalar
    {value other : Value}
    (reordered : Reordered value other)
    (isScalar : Scalar value) :
    other = value := by
  induction reordered with
  | refl => rfl
  | trans _ _ first second =>
      have same := first isScalar
      subst same
      exact second isScalar
  | permuted | inside | item | tagged => cases isScalar

theorem Reordered.untagged_eq
    {value other scalar : Value}
    (reordered : Reordered value other)
    (isScalar : Scalar scalar)
    (below : value.untagged = scalar) :
    other.untagged = scalar := by
  induction reordered with
  | refl => exact below
  | trans _ _ first second => exact second (first below)
  | tagged _ _ inner => exact inner below
  | permuted | inside | item =>
      subst below
      cases isScalar

end Value

namespace Shape

variable {value other : Value} (moved : value.Reordered other)

include moved

theorem IsText.reordered
    {text : String} (isText : IsText value text) :
    IsText other text := by
  obtain ⟨below⟩ := isText
  exact .text (moved.untagged_eq (.string text) below)

theorem IsFloat.reordered
    {number : Decimal.Binary64} (isFloat : IsFloat value number) :
    IsFloat other number := by
  rcases isFloat with below | below
  · exact .integer (moved.untagged_eq (.number _) below)
  · exact .float (moved.untagged_eq (.number _) below)

theorem IsNatural.reordered
    {number : Nat} (isNatural : IsNatural value number) :
    IsNatural other number := by
  obtain ⟨below, bound⟩ := isNatural
  exact .natural (moved.untagged_eq (.number _) below) bound

theorem IsOptional.reordered
    {α : Type} {Is : Value → α → Prop} {result : Option α}
    (carries : ∀ inner, Is value inner → Is other inner)
    (isOptional : IsOptional Is value result) :
    IsOptional Is other result := by
  cases isOptional with
  | absent =>
      rw [moved.eq_of_scalar .null]
      exact .absent
  | given notNull is =>
      refine .given ?_ (carries _ is)
      intro isNull
      subst isNull
      exact notNull (moved.symm.eq_of_scalar .null)

theorem AreTexts.reordered
    {texts : List String} (areTexts : AreTexts value texts) :
    AreTexts other texts := by
  induction moved generalizing texts with
  | refl => exact areTexts
  | trans _ _ first second => exact second (first areTexts)
  | permuted | inside =>
      obtain below | ⟨below, _⟩ := areTexts
      · cases below
      · cases below
  | @item before after value other inner _ =>
      obtain below | ⟨below, each⟩ := areTexts
      · cases below
      cases below
      have alike : List.Forall₂ (fun item moved => ∀ text, IsText item text → IsText moved text)
          (before ++ value :: after) (before ++ other :: after) :=
        Paired.replaced (fun _ _ isText => isText) before after fun _ => IsText.reordered inner
      exact .sequence rfl (Paired.transfer (fun _ _ text carries => carries text) alike each)
  | tagged _ _ inner =>
      rcases areTexts with below | ⟨below, each⟩
      · rcases inner (.null below) with below | ⟨below, each⟩
        · exact .null below
        · exact .sequence below each
      · rcases inner (.sequence below each) with below | ⟨below, each⟩
        · exact .null below
        · exact .sequence below each

end Shape

end Yaml

namespace Content

open Record (Arranged HasId)
open Yaml.Shape (Names)
open Yaml.Value (Reordered)

theorem Form.Gives.reordered
    {form : Form} {value other : Value} {datum : Datum}
    (moved : value.Reordered other)
    (gives : form.Gives value datum) :
    form.Gives other datum := by
  cases gives with
  | text is => exact .text (is.reordered moved fun _ => Yaml.Shape.IsText.reordered moved)
  | float is => exact .float (is.reordered moved fun _ => Yaml.Shape.IsFloat.reordered moved)
  | natural is => exact .natural (is.reordered moved fun _ => Yaml.Shape.IsNatural.reordered moved)
  | texts are => exact .texts (are.reordered moved)

/-! ## Nested values -/

/-- Wherever one value is decoded, the other one is decoded alike. -/
structure Interchangeable (value other : Value) : Prop where
  reordered : value.Reordered other
  entry : ∀ id entry, Decodes id value entry → Decodes id other entry
  entries : ∀ content, EntriesOf Decodes value content → EntriesOf Decodes other content
  block : ∀ kind block, BlockOf Decodes kind value block → BlockOf Decodes kind other block

theorem Interchangeable.refl (value : Value) : Interchangeable value value :=
  ⟨.refl value, fun _ _ => id, fun _ => id, fun _ _ => id⟩

theorem Interchangeable.trans
    {value middle other : Value}
    (first : Interchangeable value middle)
    (second : Interchangeable middle other) :
    Interchangeable value other where
  reordered := first.reordered.trans second.reordered
  entry id entry := second.entry id entry ∘ first.entry id entry
  entries content := second.entries content ∘ first.entries content
  block kind block := second.block kind block ∘ first.block kind block

/-- Pairs with one key and interchangeable values. -/
structure Alike (pair other : Value × Value) : Prop where
  key : pair.1 = other.1
  value : Interchangeable pair.2 other.2

/-! ## Permuted pairs -/

section

variable {pairs others : List (Value × Value)} (perm : pairs.Perm others)

include perm

theorem EntriesOf.permuted
    {content : List (String × Entry)}
    (entriesOf : EntriesOf Decodes (.mapping pairs) content) :
    EntriesOf Decodes (.mapping others) content := by
  obtain _ | ⟨ids, each, arranged⟩ := entriesOf
  obtain ⟨moved, all, movedPerm⟩ := List.perm_comp_forall₂ perm.symm (Paired.and_iff.mpr ⟨ids, each⟩)
  obtain ⟨movedIds, movedEach⟩ := Paired.and_iff.mp all
  exact .mapping movedIds movedEach ⟨arranged.perm.trans movedPerm.symm, arranged.increasing⟩

theorem BlockOf.permuted
    {kind : Kind} {block : Block}
    (blockOf : BlockOf Decodes kind (.mapping pairs) block) :
    BlockOf Decodes kind (.mapping others) block := by
  cases blockOf with
  | entries entriesOf => exact .entries (entriesOf.permuted perm)
  | choices ids each arranged =>
      obtain ⟨moved, all, movedPerm⟩ :=
        List.perm_comp_forall₂ perm.symm (Paired.and_iff.mpr ⟨ids, each⟩)
      obtain ⟨movedIds, movedEach⟩ := Paired.and_iff.mp all
      exact .choices movedIds movedEach ⟨arranged.perm.trans movedPerm.symm, arranged.increasing⟩

theorem EntryOf.permuted
    {id : String} {entry : Entry}
    (entryOf : EntryOf Decodes (.mapping pairs) id entry) :
    EntryOf Decodes (.mapping others) id entry := by
  cases entryOf with
  | plain parts isOwn empty => exact .plain (perm.symm.trans parts) isOwn empty
  | nesting parts isOwn isBlock nested =>
      exact .nesting (perm.symm.trans parts) isOwn isBlock nested

theorem Interchangeable.permuted : Interchangeable (.mapping pairs) (.mapping others) where
  reordered := .permuted perm
  entry _ _ decodes := decodes_iff_entryOf.mpr ((decodes_iff_entryOf.mp decodes).permuted perm)
  entries _ entriesOf := entriesOf.permuted perm
  block _ _ blockOf := blockOf.permuted perm

end

/-! ## Replaced values -/

theorem Alike.eq_of_scalar
    {pair other : Value × Value}
    (alike : Alike pair other)
    (isScalar : Yaml.Value.Scalar pair.2) :
    other = pair :=
  Prod.ext alike.key.symm (alike.value.reordered.eq_of_scalar isScalar)

section

variable {pairs others : List (Value × Value)} (paired : List.Forall₂ Alike pairs others)

include paired

theorem Own.alike
    {kind : Kind} {id : String} {entry : Entry}
    (isOwn : Own kind id pairs entry) :
    Own kind id others entry := by
  obtain ⟨given, nodup, all, unset⟩ := isOwn.fields
  refine ⟨isOwn.ofKind, isOwn.ofId, given, nodup, Paired.transfer ?_ paired all, unset⟩
  rintro pair other field same ⟨named, isKnown, gives⟩
  exact ⟨same.key ▸ named, isKnown, gives.reordered same.value.reordered⟩

theorem EntriesOf.alike
    {content : List (String × Entry)}
    (entriesOf : EntriesOf Decodes (.mapping pairs) content) :
    EntriesOf Decodes (.mapping others) content := by
  obtain _ | ⟨ids, each, arranged⟩ := entriesOf
  refine .mapping (Paired.transfer ?_ paired ids) (Paired.transfer ?_ paired each) arranged
  · exact fun pair other item same hasId => same.key ▸ hasId
  · exact fun pair other item same decodes => same.value.entry item.1 item.2 decodes

theorem BlockOf.alike
    {kind : Kind} {block : Block}
    (blockOf : BlockOf Decodes kind (.mapping pairs) block) :
    BlockOf Decodes kind (.mapping others) block := by
  cases blockOf with
  | entries entriesOf => exact .entries (entriesOf.alike paired)
  | choices ids each arranged =>
      refine .choices (Paired.transfer ?_ paired ids) (Paired.transfer ?_ paired each) arranged
      · exact fun pair other item same hasId => same.key ▸ hasId
      · exact fun pair other item same entries => same.value.entries item.2 entries

theorem EntryOf.alike
    {id : String} {entry : Entry}
    (entryOf : EntryOf Decodes (.mapping pairs) id entry) :
    EntryOf Decodes (.mapping others) id entry := by
  cases entryOf with
  | plain parts isOwn empty =>
      obtain ⟨moved, all, movedPerm⟩ := List.perm_comp_forall₂ parts.symm paired
      obtain _ | ⟨typeAlike, ownAlike⟩ := all
      rw [typeAlike.eq_of_scalar (.string _)] at movedPerm
      exact .plain movedPerm.symm (isOwn.alike ownAlike) empty
  | nesting parts isOwn isBlock nested =>
      obtain ⟨moved, all, movedPerm⟩ := List.perm_comp_forall₂ parts.symm paired
      obtain _ | ⟨typeAlike, rest⟩ := all
      obtain _ | @⟨_, ⟨key, content⟩, _, _, contentAlike, ownAlike⟩ := rest
      rw [typeAlike.eq_of_scalar (.string _)] at movedPerm
      have isKey : .string "content" = key := contentAlike.key
      subst isKey
      exact .nesting movedPerm.symm (isOwn.alike ownAlike) (contentAlike.value.block _ _ isBlock)
        nested

theorem Interchangeable.mapping
    (reordered : Reordered (.mapping pairs) (.mapping others)) :
    Interchangeable (.mapping pairs) (.mapping others) where
  reordered := reordered
  entry _ _ decodes := decodes_iff_entryOf.mpr ((decodes_iff_entryOf.mp decodes).alike paired)
  entries _ entriesOf := entriesOf.alike paired
  block _ _ blockOf := blockOf.alike paired

end

/-- Only mappings are decoded, and null as nested content. -/
theorem interchangeable_of_not_decoded
    {value other : Value}
    (reordered : value.Reordered other)
    (notNull : value ≠ .null)
    (notMapping : ∀ pairs, value ≠ .mapping pairs) :
    Interchangeable value other := by
  have noEntries : ∀ content, ¬ EntriesOf Decodes value content := by
    intro content entriesOf
    cases entriesOf with
    | null => exact notNull rfl
    | mapping => exact notMapping _ rfl
  refine ⟨reordered, ?_, ?_, ?_⟩
  · intro id entry decodes
    cases decodes_iff_entryOf.mp decodes <;> exact absurd rfl (notMapping _)
  · intro content entriesOf
    exact (noEntries content entriesOf).elim
  · intro kind block blockOf
    cases blockOf with
    | entries entriesOf => exact (noEntries _ entriesOf).elim
    | noChoices => exact absurd rfl notNull
    | choices => exact absurd rfl (notMapping _)

theorem interchangeable_of_reordered
    {value other : Value}
    (reordered : value.Reordered other) :
    Interchangeable value other := by
  induction reordered with
  | refl value => exact .refl value
  | trans _ _ first second => exact first.trans second
  | permuted perm => exact .permuted perm
  | @inside before after key value other moved inner =>
      refine Interchangeable.mapping ?_ (.inside before after key moved)
      exact Paired.replaced (fun pair => ⟨rfl, .refl pair.2⟩) before after ⟨rfl, inner⟩
  | item before after moved _ =>
      exact interchangeable_of_not_decoded (.item before after moved) (by simp) (by simp)
  | tagged tag moved _ =>
      exact interchangeable_of_not_decoded (.tagged tag moved) (by simp) (by simp)

/-! ## Decoding -/

/-- A value is decoded to the entry that it states by the grammar, and refused
if it states none.  The order of pairs does not matter, at any depth. -/
theorem decode_exact :
    (∀ id value entry, decode id value = .ok entry ↔ States id value entry) ∧
      ∀ id value other entry, value.Reordered other →
        (decode id value = .ok entry ↔ decode id other = .ok entry) := by
  constructor
  · exact fun id value entry => decodes_iff_states
  · intro id value other entry reordered
    constructor
    · exact (interchangeable_of_reordered reordered).entry id entry
    · exact (interchangeable_of_reordered reordered.symm).entry id entry

/-- A logo with its coordinates in some order. -/
def logo (coordinates : List (Value × Value)) : Value :=
  .mapping ((.string "type", .string "rectangle") :: coordinates)

def factionSeal (logo : Value) : Value :=
  .mapping
    [(.string "choices", .string "faction"),
      (.string "content",
        .mapping
          [(.string "Sea", .mapping [(.string "logo", logo)]), (.string "Land", .null)]),
      (.string "type", .string "choice")]

def leftEdge : Value × Value :=
  (.string "x", .number (.integer 1))

def upperEdge : Value × Value :=
  (.tagged "cm" (.string "y"), .number (.integer 2))

theorem decode_exact_factionSeal :
    ∃ entry, decode "seal" (factionSeal (logo [leftEdge, upperEdge])) = .ok entry ∧
      States "seal" (factionSeal (logo [leftEdge, upperEdge])) entry ∧
      decode "seal" (factionSeal (logo [upperEdge, leftEdge])) = .ok entry := by
  obtain ⟨exactly, anyOrder⟩ := decode_exact
  obtain ⟨entry, decoded⟩ :=
    exists_of_isOk (decode "seal" (factionSeal (logo [leftEdge, upperEdge]))) (by decide +kernel)
  have swapped : (logo [leftEdge, upperEdge]).Reordered (logo [upperEdge, leftEdge]) :=
    .permuted ((List.Perm.swap upperEdge leftEdge []).cons _)
  have inSeal : (factionSeal (logo [leftEdge, upperEdge])).Reordered
      (factionSeal (logo [upperEdge, leftEdge])) :=
    .inside [_] [_] _ (.inside [] [_] _ (.inside [] [] _ swapped))
  exact ⟨entry, decoded, (exactly ..).mp decoded, (anyOrder _ _ _ _ inSeal).mp decoded⟩

/-- A tagged key is no field name but names a field all the same, and so two
different keys can name one field, which is refused. -/
theorem names_below_tags :
    ((decode "logo" (logo [upperEdge])).isOk = true ∧ upperEdge.1 ≠ .string "type" ∧
        ∀ field : Field, upperEdge.1 ≠ .string field.name) ∧
      (decode "logo" (logo [upperEdge, (.string "y", .number (.integer 3))])).isOk = false ∧
        upperEdge.1.same (.string "y") = false ∧ Field.y ∈ Kind.rectangle.fields ∧
        ∀ pair ∈ [upperEdge, (.string "y", .number (.integer 3))],
          Names Field.name pair.1 .y ∧ ∃ datum, Field.y.Gives pair.2 datum := by
  refine ⟨⟨by decide +kernel, by simp [upperEdge], by simp [upperEdge]⟩, by decide +kernel, rfl,
    by decide, ?_⟩
  have twice : ∀ number : Int, Field.y.Gives (.number (.integer number))
      (.float (some (Decimal.Binary64.ofInt number))) := by
    intro number
    exact .float (.given (by simp) (.integer rfl))
  simp only [List.forall_mem_cons, List.not_mem_nil, false_imp_iff, implies_true, and_true]
  exact ⟨⟨rfl, _, twice 2⟩, rfl, _, twice 3⟩

end Content

end Chronicle
