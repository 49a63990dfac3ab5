import Chronicle.Proofs.Parameter.Store
import Chronicle.Proofs.Recorded

/-!
# Inheriting from one template and from many

A template that inherits is laid over its ancestor: content and parameters are
united, and the own preset stays in place of an inherited one.  Laying a
template over all its ancestors, the nearest on top, gives the answers of the
first of them that has one.
-/

namespace Chronicle.Template

open Content (Entry)

/-! ## Building -/

/-- The templates that come from records and inheritance. -/
inductive Reachable : Template → Prop
  | ofRecord {locator : String} {record : Record} {template : Template}
      (made : Template.ofRecord locator record = .ok template) :
      Reachable template
  | inherit {template ancestor merged : Template}
      (reachable : Reachable template)
      (ancestorReachable : Reachable ancestor)
      (made : template.inherit ancestor = .ok merged) :
      Reachable merged

/-! ## One ancestor -/

/-- The template with everything of an ancestor below what it has itself. -/
def layOver (template ancestor : Template) : Template :=
  { template with
    content := template.content.union ancestor.content
    presets := template.presets.union ancestor.presets
    parameters := ⟨template.parameters.table.union ancestor.parameters.table⟩ }

/-- No content ID of both templates. -/
def ContentApart (template other : Template) : Prop :=
  ∀ key ∈ template.content.keys, key ∉ other.content.keys

/-- No parameter ID of both templates. -/
def ParametersApart (template other : Template) : Prop :=
  ∀ key ∈ template.parameters.keys, key ∉ other.parameters.keys

theorem firstSharedContent_eq_none_iff
    {template ancestor : Template} :
    template.firstSharedContent ancestor = none ↔ template.ContentApart ancestor :=
  Table.find?_contains_eq_none_iff

theorem firstSharedParameter_eq_none_iff
    {template ancestor : Template} :
    template.parameters.firstShared ancestor.parameters = none ↔
      template.ParametersApart ancestor :=
  Parameter.Store.firstShared_eq_none_iff

theorem inherit_of_sharedContent
    {template ancestor : Template} {key : String}
    (shared : template.firstSharedContent ancestor = some key) :
    template.inherit ancestor =
      .error (.inheritance (.sharedContent key ancestor.id template.id)) := by
  rw [inherit, shared]
  rfl

theorem inherit_of_sharedParameter
    {template ancestor : Template} {key : String}
    (apart : template.firstSharedContent ancestor = none)
    (shared : template.parameters.firstShared ancestor.parameters = some key) :
    template.inherit ancestor =
      .error (.context s!"inheriting '{ancestor.id}' into '{template.id}'"
        (.duplicate .parameter key template.id ancestor.id)) := by
  rw [inherit, apart]
  simp only [shared]
  rfl

theorem inherit_of_apart
    {template ancestor : Template}
    (keyed : ancestor.parameters.Keyed)
    (apart : template.firstSharedContent ancestor = none)
    (parametersApart : template.parameters.firstShared ancestor.parameters = none) :
    template.inherit ancestor = .ok (template.layOver ancestor) := by
  rw [inherit, apart]
  simp only [parametersApart, Parameter.Store.inherit_eq_ok keyed parametersApart]
  rfl

theorem inherit_eq_ok_iff
    {template ancestor merged : Template}
    (keyed : ancestor.parameters.Keyed) :
    template.inherit ancestor = .ok merged ↔
      template.ContentApart ancestor ∧ template.ParametersApart ancestor ∧
        merged = template.layOver ancestor := by
  rw [← firstSharedContent_eq_none_iff, ← firstSharedParameter_eq_none_iff]
  cases content : template.firstSharedContent ancestor with
  | some key => simp [inherit_of_sharedContent content]
  | none =>
      cases parameters : template.parameters.firstShared ancestor.parameters with
      | some key => simp [inherit_of_sharedParameter content parameters]
      | none => simp [inherit_of_apart keyed content parameters, eq_comm]

/-! ## What reachable templates hold -/

theorem Reachable.parameters
    {template : Template}
    (reachable : Reachable template) :
    template.parameters.Reachable := by
  induction reachable with
  | ofRecord made => exact .ofPairs (ofRecord_eq_ok_iff.mp made).parameters
  | @inherit template ancestor merged _ _ made own inherited =>
      obtain ⟨_, parametersApart, rfl⟩ := (inherit_eq_ok_iff inherited.keyed).mp made
      exact .inherit own inherited
        (Parameter.Store.inherit_eq_ok inherited.keyed
          (firstSharedParameter_eq_none_iff.mpr parametersApart))

/-- However a template came about, every entry of its content stands under its
own ID, and everything nested in it is in order. -/
theorem Reachable.filed
    {template : Template}
    (reachable : template.Reachable) :
    template.content.Forall Content.Filed := by
  induction reachable with
  | ofRecord made =>
      obtain ⟨decoded, isDecoded, filled⟩ := (ofRecord_eq_ok_iff.mp made).content
      rw [filled]
      exact filed_fillContent (Content.filed_of_decodeMap isDecoded)
  | inherit _ ancestorReachable made filed ancestorFiled =>
      obtain ⟨_, _, rfl⟩ := (inherit_eq_ok_iff ancestorReachable.parameters.keyed).mp made
      exact filed.union ancestorFiled

/-! ## All ancestors -/

/-- The template over all its ancestors, the nearest first. -/
def overAll : Template → List Template → Template
  | template, [] => template
  | template, parent :: ancestors => template.layOver (overAll parent ancestors)

/-- What a template keeps when it is laid over its ancestors. -/
structure SameHead (template other : Template) : Prop where
  id : template.id = other.id
  description : template.description = other.description
  parent : template.parent = other.parent
  aliases : template.aliases = other.aliases
  locator : template.locator = other.locator

theorem overAll_sameHead (template : Template) (ancestors : List Template) :
    SameHead (template.overAll ancestors) template := by
  cases ancestors <;> exact ⟨rfl, rfl, rfl, rfl, rfl⟩

/-- Whatever two templates answer one after the other, a template over its
ancestors answers like the first of them that has an answer. -/
theorem overAll_answers
    {α : Type} (ask : Template → Option α)
    (united : ∀ template ancestor : Template,
      ask (template.layOver ancestor) = (ask template).or (ask ancestor))
    (template : Template) (ancestors : List Template) :
    ask (template.overAll ancestors) = (template :: ancestors).findSome? ask := by
  induction ancestors generalizing template with
  | nil => cases found : ask template <;> simp [overAll, found]
  | cons parent rest inductionHypothesis =>
      rw [overAll, united, inductionHypothesis parent]
      cases found : ask template <;> simp [found]

theorem get?_overAll_content
    (template : Template) (ancestors : List Template) (key : String) :
    (template.overAll ancestors).content.get? key =
      (template :: ancestors).findSome? fun member => member.content.get? key :=
  overAll_answers (fun member => member.content.get? key)
    (fun template ancestor => Table.get?_union template.content ancestor.content key)
    template ancestors

theorem get?_overAll_presets
    (template : Template) (ancestors : List Template) (key : String) :
    (template.overAll ancestors).presets.get? key =
      (template :: ancestors).findSome? fun member => member.presets.get? key :=
  overAll_answers (fun member => member.presets.get? key)
    (fun template ancestor => Table.get?_union template.presets ancestor.presets key)
    template ancestors

theorem get?_overAll_parameters
    (template : Template) (ancestors : List Template) (key : String) :
    (template.overAll ancestors).parameters.get? key =
      (template :: ancestors).findSome? fun member => member.parameters.get? key :=
  overAll_answers (fun member => member.parameters.get? key)
    (fun template ancestor =>
      Table.get?_union template.parameters.table ancestor.parameters.table key)
    template ancestors

/-- A key that at most one template of a list answers is answered by whichever
has it. -/
theorem findSome?_eq_some_iff_of_pairwise
    {α : Type} {ask : Template → Option α} {members : List Template} {answer : α}
    (apart : members.Pairwise fun template other => ask template = none ∨ ask other = none) :
    members.findSome? ask = some answer ↔ ∃ member ∈ members, ask member = some answer := by
  induction members with
  | nil => simp
  | cons head rest inductionHypothesis =>
      obtain ⟨headApart, restApart⟩ := List.pairwise_cons.mp apart
      rw [List.findSome?_cons]
      cases found : ask head with
      | none => simpa [found] using inductionHypothesis restApart
      | some own =>
          have silent : ∀ member ∈ rest, ask member = none := by
            intro member inRest
            exact (headApart member inRest).resolve_left (by simp [found])
          constructor
          · intro isOwn
            exact ⟨head, List.mem_cons_self .., found.trans isOwn⟩
          · rintro ⟨member, inMembers, answered⟩
            rcases List.mem_cons.mp inMembers with same | inRest
            · rw [← answered, same, found]
            · simp [silent member inRest] at answered

/-! ## Keys of all ancestors -/

theorem exists_overAll_answer_iff
    {α : Type} (ask : Template → Option α)
    (united : ∀ template ancestor : Template,
      ask (template.layOver ancestor) = (ask template).or (ask ancestor))
    (template : Template) (ancestors : List Template) :
    (∃ answer, ask (template.overAll ancestors) = some answer) ↔
      ∃ member ∈ template :: ancestors, ∃ answer, ask member = some answer := by
  rw [overAll_answers ask united]
  simp only [← Option.isSome_iff_exists, List.findSome?_isSome_iff]

theorem mem_overAll_contentKeys
    {template : Template} {ancestors : List Template} {key : String} :
    key ∈ (template.overAll ancestors).content.keys ↔
      ∃ member ∈ template :: ancestors, key ∈ member.content.keys := by
  simp only [Table.mem_keys_iff]
  exact exists_overAll_answer_iff (fun member => member.content.get? key)
    (fun template ancestor => Table.get?_union template.content ancestor.content key)
    template ancestors

theorem mem_overAll_parameterKeys
    {template : Template} {ancestors : List Template} {key : String} :
    key ∈ (template.overAll ancestors).parameters.keys ↔
      ∃ member ∈ template :: ancestors, key ∈ member.parameters.keys := by
  simp only [Parameter.Store.keys, Table.mem_keys_iff]
  exact exists_overAll_answer_iff (fun member => member.parameters.table.get? key)
    (fun template ancestor =>
      Table.get?_union template.parameters.table ancestor.parameters.table key)
    template ancestors

/-- Keys are apart from those of all members of a list together if they are
apart from those of each. -/
theorem apart_iff_of_mem_iff
    {own all : List String} {members : List Template} {keys : Template → List String}
    (mem_all : ∀ key, key ∈ all ↔ ∃ member ∈ members, key ∈ keys member) :
    (∀ key ∈ own, key ∉ all) ↔ ∀ member ∈ members, ∀ key ∈ own, key ∉ keys member := by
  constructor
  · intro apart member inMembers key isOwn inherited
    exact apart key isOwn ((mem_all key).mpr ⟨member, inMembers, inherited⟩)
  · intro apart key isOwn inAll
    obtain ⟨member, inMembers, inherited⟩ := (mem_all key).mp inAll
    exact apart member inMembers key isOwn inherited

theorem contentApart_overAll_iff
    {child parent : Template} {ancestors : List Template} :
    child.ContentApart (parent.overAll ancestors) ↔
      ∀ ancestor ∈ parent :: ancestors, child.ContentApart ancestor :=
  apart_iff_of_mem_iff fun _ => mem_overAll_contentKeys

theorem parametersApart_overAll_iff
    {child parent : Template} {ancestors : List Template} :
    child.ParametersApart (parent.overAll ancestors) ↔
      ∀ ancestor ∈ parent :: ancestors, child.ParametersApart ancestor :=
  apart_iff_of_mem_iff fun _ => mem_overAll_parameterKeys

theorem overAll_keyed
    {template : Template} {ancestors : List Template}
    (keyed : ∀ member ∈ template :: ancestors, member.parameters.Keyed) :
    (template.overAll ancestors).parameters.Keyed := by
  intro id definition found
  rw [get?_overAll_parameters] at found
  obtain ⟨member, inMembers, answered⟩ := List.exists_of_findSome?_eq_some found
  exact keyed member inMembers id definition answered

/-! ## Collisions -/

/-- The least of the keys that a template shares with one of the templates
above it. -/
structure IsFirstShared
    (keys : Template → List String) (child : Template) (above : List Template)
    (key : String) : Prop where
  own : key ∈ keys child
  inherited : ∃ ancestor ∈ above, key ∈ keys ancestor
  least : ∀ other ∈ keys child, (∃ ancestor ∈ above, other ∈ keys ancestor) → key ≤ other

theorem IsFirstShared.unique
    {keys : Template → List String} {child : Template} {above : List Template}
    {key other : String}
    (first : IsFirstShared keys child above key)
    (otherFirst : IsFirstShared keys child above other) :
    key = other :=
  String.le_antisymm
    (first.least other otherFirst.own otherFirst.inherited)
    (otherFirst.least key first.own first.inherited)

/-- Why a template cannot inherit from its parent, which has inherited from its
own ancestors before.  Shared content comes first. -/
inductive Collision (child parent : Template) (ancestors : List Template) : Fault → Prop
  | content {key : String}
      (first : IsFirstShared (fun member => member.content.keys) child
        (parent :: ancestors) key) :
      Collision child parent ancestors (.inheritance (.sharedContent key parent.id child.id))
  | parameter {key : String}
      (contentApart : ∀ ancestor ∈ parent :: ancestors, child.ContentApart ancestor)
      (first : IsFirstShared (fun member => member.parameters.keys) child
        (parent :: ancestors) key) :
      Collision child parent ancestors
        (.context s!"inheriting '{parent.id}' into '{child.id}'"
          (.duplicate .parameter key child.id parent.id))

theorem Collision.unique
    {child parent : Template} {ancestors : List Template} {fault other : Fault}
    (collision : Collision child parent ancestors fault)
    (otherCollision : Collision child parent ancestors other) :
    fault = other := by
  cases collision with
  | content first =>
      cases otherCollision with
      | content otherFirst => rw [first.unique otherFirst]
      | parameter contentApart _ =>
          obtain ⟨ancestor, member, inherited⟩ := first.inherited
          exact absurd inherited (contentApart ancestor member _ first.own)
  | parameter contentApart first =>
      cases otherCollision with
      | content otherFirst =>
          obtain ⟨ancestor, member, inherited⟩ := otherFirst.inherited
          exact absurd inherited (contentApart ancestor member _ otherFirst.own)
      | parameter _ otherFirst => rw [first.unique otherFirst]

/-- A template that collides is not apart from all templates above it. -/
theorem Collision.not_apart
    {child parent : Template} {ancestors : List Template} {fault : Fault}
    (collision : Collision child parent ancestors fault)
    (contentApart : ∀ ancestor ∈ parent :: ancestors, child.ContentApart ancestor)
    (parametersApart : ∀ ancestor ∈ parent :: ancestors, child.ParametersApart ancestor) :
    False := by
  cases collision with
  | content first =>
      obtain ⟨ancestor, member, inherited⟩ := first.inherited
      exact contentApart ancestor member _ first.own inherited
  | parameter _ first =>
      obtain ⟨ancestor, member, inherited⟩ := first.inherited
      exact parametersApart ancestor member _ first.own inherited

/-- The search through the keys of a whole lineage finds the first shared
one. -/
theorem isFirstShared_of_find?
    {keys : Template → List String} {own : String → Bool}
    {child : Template} {above : List Template} {all : List String} {key : String}
    (increasing : all.Pairwise (· < ·))
    (mem_own : ∀ key, key ∈ keys child ↔ own key = true)
    (mem_all : ∀ key, key ∈ all ↔ ∃ ancestor ∈ above, key ∈ keys ancestor)
    (found : all.find? own = some key) :
    IsFirstShared keys child above key := by
  rw [Table.find?_eq_some_iff_of_increasing increasing] at found
  obtain ⟨inAll, isOwn, least⟩ := found
  refine ⟨(mem_own key).mpr isOwn, (mem_all key).mp inAll, ?_⟩
  intro other otherOwn otherInherited
  exact least other ((mem_all other).mpr otherInherited) ((mem_own other).mp otherOwn)

theorem firstSharedContent_overAll
    {child parent : Template} {ancestors : List Template} {key : String}
    (shared : child.firstSharedContent (parent.overAll ancestors) = some key) :
    IsFirstShared (fun member => member.content.keys) child (parent :: ancestors) key :=
  isFirstShared_of_find? (Table.keys_pairwise _) (fun _ => Table.mem_keys_iff_contains)
    (fun _ => mem_overAll_contentKeys) shared

theorem firstSharedParameter_overAll
    {child parent : Template} {ancestors : List Template} {key : String}
    (shared : child.parameters.firstShared (parent.overAll ancestors).parameters = some key) :
    IsFirstShared (fun member => member.parameters.keys) child (parent :: ancestors) key :=
  isFirstShared_of_find? (Table.keys_pairwise _) (fun _ => Table.mem_keys_iff_contains)
    (fun _ => mem_overAll_parameterKeys) shared

/-- Inheriting from a parent that lies over its ancestors either lays the
template over all of them or ends with the collision. -/
theorem inherit_overAll
    (child : Template) {parent : Template} {ancestors : List Template}
    (keyed : ∀ member ∈ parent :: ancestors, member.parameters.Keyed) :
    ((∀ ancestor ∈ parent :: ancestors, child.ContentApart ancestor) ∧
        (∀ ancestor ∈ parent :: ancestors, child.ParametersApart ancestor) ∧
        child.inherit (parent.overAll ancestors) = .ok (child.overAll (parent :: ancestors))) ∨
      ∃ fault, Collision child parent ancestors fault ∧
        child.inherit (parent.overAll ancestors) = .error fault := by
  have parentId : (parent.overAll ancestors).id = parent.id := (overAll_sameHead ..).id
  cases content : child.firstSharedContent (parent.overAll ancestors) with
  | some key =>
      refine Or.inr ⟨_, .content (firstSharedContent_overAll content), ?_⟩
      rw [inherit_of_sharedContent content, parentId]
  | none =>
      have contentApart := contentApart_overAll_iff.mp
        (firstSharedContent_eq_none_iff.mp content)
      cases parameters : child.parameters.firstShared (parent.overAll ancestors).parameters with
      | some key =>
          refine Or.inr
            ⟨_, .parameter contentApart (firstSharedParameter_overAll parameters), ?_⟩
          rw [inherit_of_sharedParameter content parameters, parentId]
      | none =>
          refine Or.inl ⟨contentApart, ?_, inherit_of_apart (overAll_keyed keyed) content parameters⟩
          exact parametersApart_overAll_iff.mp (firstSharedParameter_eq_none_iff.mp parameters)

end Chronicle.Template
