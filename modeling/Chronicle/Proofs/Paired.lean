import Mathlib.Data.List.Forall2

/-!
# Lists related item by item

What each item of a list is read as stands at the same place of another list.
So every item has its counterpart, and items without a common counterpart have
distinct ones.
-/

namespace Chronicle.Paired

universe u v w

variable {α : Type u} {β : Type v} {γ : Type w} {Related : α → β → Prop} {left : List α}
  {right : List β}

theorem exists_right
    (all : List.Forall₂ Related left right)
    {item : α} (member : item ∈ left) :
    ∃ other ∈ right, Related item other := by
  induction all with
  | nil => cases member
  | cons headRelated _ inductionHypothesis =>
      rcases List.mem_cons.mp member with rfl | inRest
      · exact ⟨_, List.mem_cons_self .., headRelated⟩
      · obtain ⟨other, isOther, related⟩ := inductionHypothesis inRest
        exact ⟨other, List.mem_cons_of_mem _ isOther, related⟩

theorem exists_left
    (all : List.Forall₂ Related left right)
    {other : β} (member : other ∈ right) :
    ∃ item ∈ left, Related item other :=
  exists_right (List.Forall₂.flip all) member

theorem imp_of_mem
    {Other : α → β → Prop}
    (implies : ∀ item ∈ left, ∀ other, Related item other → Other item other)
    (all : List.Forall₂ Related left right) :
    List.Forall₂ Other left right := by
  induction all with
  | nil => exact .nil
  | cons headRelated _ inductionHypothesis =>
      obtain ⟨headImplies, restImplies⟩ := List.forall_mem_cons.mp implies
      exact .cons (headImplies _ headRelated) (inductionHypothesis restImplies)

/-- What is left out on both sides leaves related items. -/
theorem filter
    {keep : α → Bool} {keepOther : β → Bool}
    (agree : ∀ item ∈ left, ∀ other, Related item other → keep item = keepOther other)
    (all : List.Forall₂ Related left right) :
    List.Forall₂ Related (left.filter keep) (right.filter keepOther) := by
  induction all with
  | nil => exact .nil
  | @cons item other rest otherRest headRelated _ inductionHypothesis =>
      obtain ⟨headAgree, restAgree⟩ := List.forall_mem_cons.mp agree
      rw [List.filter_cons, List.filter_cons, headAgree other headRelated]
      cases keepOther other with
      | false => exact inductionHypothesis restAgree
      | true => exact .cons headRelated (inductionHypothesis restAgree)

/-- A list with one item replaced. -/
theorem replaced
    {Related : α → α → Prop}
    (refl : ∀ item, Related item item)
    (before after : List α) {item other : α} (related : Related item other) :
    List.Forall₂ Related (before ++ item :: after) (before ++ other :: after) := by
  induction before with
  | nil => exact .cons related (List.forall₂_same.mpr fun item _ => refl item)
  | cons head rest inductionHypothesis => exact .cons (refl head) inductionHypothesis

theorem and_iff
    {Other : α → β → Prop} :
    List.Forall₂ (fun item other => Related item other ∧ Other item other) left right ↔
      List.Forall₂ Related left right ∧ List.Forall₂ Other left right := by
  constructor
  · intro all
    exact ⟨all.imp fun _ _ both => both.1, all.imp fun _ _ both => both.2⟩
  · rintro ⟨all, allOther⟩
    exact List.Forall₂.mp (fun _ _ related other => ⟨related, other⟩) all allOther

/-- What two lists have in common with a third one carries over from one to the
other. -/
theorem transfer
    {Other : α → γ → Prop} {Carried : β → γ → Prop} {others : List γ}
    (carry : ∀ item image other, Related item image → Other item other → Carried image other)
    (all : List.Forall₂ Related left right)
    (allOther : List.Forall₂ Other left others) :
    List.Forall₂ Carried right others := by
  induction all generalizing others with
  | nil =>
      cases allOther
      exact .nil
  | cons headRelated _ inductionHypothesis =>
      obtain _ | ⟨headOther, restOther⟩ := allOther
      exact .cons (carry _ _ _ headRelated headOther) (inductionHypothesis restOther)

/-- Items that exclude each other have distinct counterparts. -/
theorem nodup_right
    {Apart : α → α → Prop}
    (all : List.Forall₂ Related left right)
    (apart : left.Pairwise Apart)
    (excluded : ∀ item another other, Related item other → Related another other →
      ¬ Apart item another) :
    right.Nodup := by
  induction all with
  | nil => exact List.Pairwise.nil
  | @cons item other rest others headRelated restRelated inductionHypothesis =>
      obtain ⟨headApart, restApart⟩ := List.pairwise_cons.mp apart
      refine List.nodup_cons.mpr ⟨?_, inductionHypothesis restApart⟩
      intro again
      obtain ⟨another, inRest, related⟩ := exists_left restRelated again
      exact excluded item another other headRelated related (headApart another inRest)

/-- Items with distinct counterparts exclude each other. -/
theorem pairwise_left
    {Apart : α → α → Prop}
    (all : List.Forall₂ Related left right)
    (distinct : right.Nodup)
    (apart : ∀ item another other further, Related item other → Related another further →
      other ≠ further → Apart item another) :
    left.Pairwise Apart := by
  induction all with
  | nil => exact List.Pairwise.nil
  | @cons item other rest others headRelated restRelated inductionHypothesis =>
      obtain ⟨notAgain, restDistinct⟩ := List.nodup_cons.mp distinct
      refine List.pairwise_cons.mpr ⟨?_, inductionHypothesis restDistinct⟩
      intro another inRest
      obtain ⟨further, inOthers, related⟩ := exists_right restRelated inRest
      exact apart item another other further headRelated related fun same =>
        notAgain (same ▸ inOthers)

end Chronicle.Paired
