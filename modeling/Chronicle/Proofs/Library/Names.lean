import Mathlib.Data.List.Duplicate
import Mathlib.Data.List.Flatten
import Chronicle.Proofs.Paired
import Chronicle.Template

/-!
# Names of templates

The templates of a list of records claim their IDs and their aliases.  Two
claims to one name clash, whether they are made by two templates or by one.
-/

namespace Chronicle.Library

/-! ## Templates of records -/

/-- Each template is made from the record in its place. -/
def Made (records : List (String × Record)) (templates : List Template) : Prop :=
  List.Forall₂ (fun item template => Template.ofRecord item.1 item.2 = .ok template)
    records templates

theorem Made.unique
    {records : List (String × Record)} {templates others : List Template}
    (made : Made records templates)
    (otherMade : Made records others) :
    templates = others := by
  refine List.right_unique_forall₂' ?_ made otherMade
  intro item template other isTemplate isOther
  rw [isTemplate] at isOther
  exact Except.ok.inj isOther

theorem Made.exists_record
    {records : List (String × Record)} {templates : List Template} {template : Template}
    (made : Made records templates)
    (member : template ∈ templates) :
    ∃ locator record, (locator, record) ∈ records ∧
      Template.ofRecord locator record = .ok template := by
  obtain ⟨item, isRecord, isTemplate⟩ := Paired.exists_left made member
  exact ⟨item.1, item.2, isRecord, isTemplate⟩

/-- The templates of the first records come first, and then that of the next
one. -/
theorem Made.of_split
    {before after : List (String × Record)} {item : String × Record}
    {templates front : List Template}
    (made : Made (before ++ item :: after) templates)
    (frontMade : Made before front) :
    ∃ template back, templates = front ++ template :: back ∧
      Template.ofRecord item.1 item.2 = .ok template := by
  induction frontMade generalizing templates with
  | nil =>
      obtain ⟨template, back, isTemplate, _, rfl⟩ := List.forall₂_cons_left_iff.mp made
      exact ⟨template, back, rfl, isTemplate⟩
  | cons isFirst _ inductionHypothesis =>
      obtain ⟨other, further, isOther, restMade, rfl⟩ := List.forall₂_cons_left_iff.mp made
      obtain ⟨template, back, rfl, isTemplate⟩ := inductionHypothesis restMade
      rw [isFirst, Except.ok.injEq] at isOther
      subst isOther
      exact ⟨template, back, rfl, isTemplate⟩

/-! ## Names -/

/-- All names that templates claim: first their IDs, and then their aliases. -/
def names (templates : List Template) : List String :=
  templates.map Template.id ++ templates.flatMap Template.aliases

/-- A name that two templates claim, or one template twice. -/
inductive Clash (templates : List Template) : String → Template → Template → Prop
  | ids {before after : List Template} {first second : Template}
      (split : templates = before ++ second :: after)
      (earlier : first ∈ before)
      (same : first.id = second.id) :
      Clash templates second.id first second
  | idAndAlias {owner claimant : Template}
      (isOwner : owner ∈ templates)
      (isClaimant : claimant ∈ templates)
      (declared : owner.id ∈ claimant.aliases) :
      Clash templates owner.id owner claimant
  | aliases {alias_ : String} {first second : Template}
      (isFirst : first ∈ templates)
      (isSecond : second ∈ templates)
      (less : first.id < second.id)
      (declared : alias_ ∈ first.aliases)
      (again : alias_ ∈ second.aliases) :
      Clash templates alias_ first second
  | ownAliases {before after : List String} {alias_ : String} {template : Template}
      (isTemplate : template ∈ templates)
      (declared : template.aliases = before ++ alias_ :: after)
      (earlier : alias_ ∈ before) :
      Clash templates alias_ template template

private theorem pair_sublist_append
    {name : String} {earlier later : List String}
    (inEarlier : name ∈ earlier)
    (inLater : name ∈ later) :
    [name, name].Sublist (earlier ++ later) :=
  (List.singleton_sublist.mpr inEarlier).append (List.singleton_sublist.mpr inLater)

/-- Two different members stand in a list in one order or the other. -/
private theorem pair_sublist_of_ne
    {templates : List Template} {first second : Template}
    (isFirst : first ∈ templates)
    (isSecond : second ∈ templates)
    (different : first ≠ second) :
    [first, second].Sublist templates ∨ [second, first].Sublist templates := by
  obtain ⟨before, after, rfl⟩ := List.append_of_mem isFirst
  rcases List.mem_append.mp isSecond with earlier | later
  · refine Or.inr ((List.singleton_sublist.mpr earlier).append ?_)
    exact List.singleton_sublist.mpr (List.mem_cons_self ..)
  · have further : second ∈ after := (List.mem_cons.mp later).resolve_left different.symm
    refine Or.inl (List.Sublist.trans ?_ (List.sublist_append_right before _))
    exact (List.singleton_sublist.mpr further).cons_cons first

theorem Clash.duplicate
    {templates : List Template} {name : String} {first second : Template}
    (clash : Clash templates name first second) :
    List.Duplicate name (names templates) := by
  rw [List.duplicate_iff_sublist, names]
  cases clash with
  | @ids before after _ _ split earlier same =>
      have inBefore : second.id ∈ before.map Template.id :=
        same ▸ List.mem_map_of_mem earlier
      have twice := pair_sublist_append inBefore
        (List.mem_cons_self : second.id ∈ second.id :: after.map Template.id)
      rw [split, List.map_append, List.map_cons]
      exact twice.trans (List.sublist_append_left ..)
  | idAndAlias isOwner isClaimant declared =>
      exact pair_sublist_append (List.mem_map_of_mem isOwner)
        (List.mem_flatMap.mpr ⟨second, isClaimant, declared⟩)
  | aliases isFirst isSecond less declared again =>
      have different : first ≠ second := by
        rintro rfl
        exact String.lt_irrefl _ less
      refine List.Sublist.trans ?_ (List.sublist_append_right ..)
      rcases pair_sublist_of_ne isFirst isSecond different with inOrder | reversed
      · have twice := pair_sublist_append declared again
        exact twice.trans (by simpa using inOrder.flatMap Template.aliases)
      · have twice := pair_sublist_append again declared
        exact twice.trans (by simpa using reversed.flatMap Template.aliases)
  | @ownAliases before after _ _ isTemplate declared earlier =>
      have twice := pair_sublist_append earlier (List.mem_cons_self : name ∈ name :: after)
      have own := (List.singleton_sublist.mpr isTemplate).flatMap Template.aliases
      rw [List.flatMap_singleton, declared] at own
      exact (twice.trans own).trans (List.sublist_append_right ..)

end Chronicle.Library
