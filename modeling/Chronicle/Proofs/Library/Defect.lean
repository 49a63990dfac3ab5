import Chronicle.Proofs.Library.Lineage

/-!
# Sound templates and defects

A template is sound if its lineage is complete and no two templates of it
define the same content or parameter.  A defect names the one thing that is
wrong with the way up from a template: an unknown parent, a cycle, or, on a
complete lineage, the collision nearest to its root.
-/

namespace Chronicle.Library

/-- All ancestors of the template are known, and what they define fits
together. -/
def Sound (library : Library) (template : Template) : Prop :=
  ∃ ancestors, library.Lineage template ancestors ∧
    (template :: ancestors).Pairwise Template.ContentApart ∧
    (template :: ancestors).Pairwise Template.ParametersApart

/-- What is wrong with the way up from a template, as the fault that says so. -/
inductive Defect (library : Library) (start : Template) : Fault → Prop
  | unknownParent {passed : List Template} {last : Template} {reference : String}
      (walked : library.Ascent start passed last)
      (named : last.parent = some reference)
      (unknown : ∀ parent, library.get reference ≠ .ok parent) :
      Defect library start (.inheritance (.unknownParent last.id reference))
  | cycle {passed : List Template} {again : Template}
      (walked : library.Ascent start passed again)
      (distinct : (passed.map Template.id).Nodup)
      (closes : again ∈ passed) :
      Defect library start (.inheritance (.cycle (passed.map Template.id) again.id))
  | collision {passed ancestors : List Template} {child parent : Template} {fault : Fault}
      (walked : library.Ascent start passed child)
      (refers : library.IsParent child parent)
      (above : library.Lineage parent ancestors)
      (contentApart : (parent :: ancestors).Pairwise Template.ContentApart)
      (parametersApart : (parent :: ancestors).Pairwise Template.ParametersApart)
      (collides : Template.Collision child parent ancestors fault) :
      Defect library start (.context s!"in '{child.locator}'" fault)

section

variable {library : Library} {start : Template}

/-! ## Where the way up ends -/

theorem stuck_of_unknown
    {last : Template} {reference : String}
    (named : last.parent = some reference)
    (unknown : ∀ parent, library.get reference ≠ .ok parent) :
    ∀ next, ¬ library.IsParent last next := by
  rintro next ⟨otherReference, otherNamed, found⟩
  rw [named, Option.some.injEq] at otherNamed
  subst otherNamed
  exact unknown next found

/-- A complete lineage meets no unknown parent. -/
theorem Lineage.known
    {ancestors passed : List Template} {last : Template} {reference : String}
    (lineage : library.Lineage start ancestors)
    (walked : library.Ascent start passed last)
    (named : last.parent = some reference)
    (unknown : ∀ parent, library.get reference ≠ .ok parent) :
    False := by
  obtain ⟨rest, above, _⟩ := lineage.drop_ascent walked
  cases above with
  | root noParent =>
      rw [noParent] at named
      cases named
  | child refers _ => exact stuck_of_unknown named unknown _ refers

/-! ## Defects and soundness exclude each other -/

theorem Defect.not_sound
    {fault : Fault}
    (defect : library.Defect start fault) :
    ¬ library.Sound start := by
  rintro ⟨ancestors, lineage, contentApart, parametersApart⟩
  cases defect with
  | unknownParent walked named unknown => exact lineage.known walked named unknown
  | cycle walked _ closes => exact lineage.not_mem_of_ascent walked closes
  | collision walked refers above _ _ collides =>
      obtain ⟨rest, fromChild, split⟩ := lineage.drop_ascent walked
      cases fromChild.unique (.child refers above)
      rw [split] at contentApart parametersApart
      exact collides.not_apart
        (List.pairwise_cons.mp (List.pairwise_append.mp contentApart).2.1).1
        (List.pairwise_cons.mp (List.pairwise_append.mp parametersApart).2.1).1

/-! ## One defect at most -/

private theorem nodup_of_nodup_ids
    {members : List Template}
    (distinct : (members.map Template.id).Nodup) :
    members.Nodup :=
  List.Pairwise.of_map Template.id
    (fun _ _ different same => different (congrArg Template.id same)) distinct

/-- Above a collision whose lineage fits together there is no other one. -/
private theorem length_le_of_collision
    {passed otherPassed ancestors otherAncestors : List Template}
    {child parent otherChild otherParent : Template} {fault : Fault}
    (walked : library.Ascent start passed child)
    (refers : library.IsParent child parent)
    (above : library.Lineage parent ancestors)
    (otherWalked : library.Ascent start otherPassed otherChild)
    (otherRefers : library.IsParent otherChild otherParent)
    (otherAbove : library.Lineage otherParent otherAncestors)
    (contentApart : (parent :: ancestors).Pairwise Template.ContentApart)
    (parametersApart : (parent :: ancestors).Pairwise Template.ParametersApart)
    (otherCollides : Template.Collision otherChild otherParent otherAncestors fault) :
    otherPassed.length ≤ passed.length := by
  apply Nat.le_of_not_lt
  intro shorter
  obtain ⟨upper, rfl⟩ := walked.extends_of_length_lt otherWalked shorter
  obtain ⟨whole, lineage, split⟩ := walked.lineage (.child refers above)
  obtain ⟨rest, fromOther, otherSplit⟩ := lineage.drop_ascent otherWalked
  cases fromOther.unique (.child otherRefers otherAbove)
  have tails : parent :: ancestors = upper ++ otherChild :: otherParent :: otherAncestors := by
    have joined := split.symm.trans otherSplit
    simpa using joined
  rw [tails] at contentApart parametersApart
  exact otherCollides.not_apart
    (List.pairwise_cons.mp (List.pairwise_append.mp contentApart).2.1).1
    (List.pairwise_cons.mp (List.pairwise_append.mp parametersApart).2.1).1

theorem Defect.unique
    {fault other : Fault}
    (defect : library.Defect start fault)
    (otherDefect : library.Defect start other) :
    fault = other := by
  cases defect with
  | unknownParent walked named unknown =>
      have stuck := stuck_of_unknown named unknown
      cases otherDefect with
      | unknownParent otherWalked otherNamed otherUnknown =>
          cases walked.unique_of_stuck stuck otherWalked
            (stuck_of_unknown otherNamed otherUnknown)
          rw [named, Option.some.injEq] at otherNamed
          rw [otherNamed]
      | cycle otherWalked _ otherCloses =>
          have inCycle := otherWalked.mem_of_cycle otherCloses walked
          obtain ⟨next, _, refers⟩ := otherWalked.exists_parent inCycle
          exact absurd refers (stuck next)
      | collision otherWalked otherRefers otherAbove =>
          obtain ⟨_, lineage, _⟩ := otherWalked.lineage (.child otherRefers otherAbove)
          exact (lineage.known walked named unknown).elim
  | cycle walked distinct closes =>
      cases otherDefect with
      | unknownParent otherWalked otherNamed otherUnknown =>
          have inCycle := walked.mem_of_cycle closes otherWalked
          obtain ⟨next, _, refers⟩ := walked.exists_parent inCycle
          exact absurd refers (stuck_of_unknown otherNamed otherUnknown next)
      | cycle otherWalked otherDistinct otherCloses =>
          obtain ⟨rfl, rfl⟩ := walked.unique_of_cycle closes (nodup_of_nodup_ids distinct)
            otherWalked otherCloses (nodup_of_nodup_ids otherDistinct)
          rfl
      | collision otherWalked otherRefers otherAbove =>
          obtain ⟨_, lineage, _⟩ := otherWalked.lineage (.child otherRefers otherAbove)
          exact absurd closes (lineage.not_mem_of_ascent walked)
  | collision walked refers above contentApart parametersApart collides =>
      obtain ⟨_, lineage, _⟩ := walked.lineage (.child refers above)
      cases otherDefect with
      | unknownParent otherWalked otherNamed otherUnknown =>
          exact (lineage.known otherWalked otherNamed otherUnknown).elim
      | cycle otherWalked _ otherCloses =>
          exact absurd otherCloses (lineage.not_mem_of_ascent otherWalked)
      | collision otherWalked otherRefers otherAbove otherContentApart otherParametersApart
          otherCollides =>
          have sameLength := Nat.le_antisymm
            (length_le_of_collision otherWalked otherRefers otherAbove walked refers above
              otherContentApart otherParametersApart collides)
            (length_le_of_collision walked refers above otherWalked otherRefers otherAbove
              contentApart parametersApart otherCollides)
          obtain ⟨rfl, rfl⟩ := walked.eq_of_length otherWalked sameLength
          cases refers.unique otherRefers
          cases above.unique otherAbove
          rw [collides.unique otherCollides]

/-- A defect is never reported as something that was not found. -/
theorem Defect.root_ne_notFound
    {fault : Fault}
    (defect : library.Defect start fault)
    (subject : Subject) (id : String) :
    fault.root ≠ .notFound subject id := by
  cases defect with
  | unknownParent => exact Fault.noConfusion
  | cycle => exact Fault.noConfusion
  | collision _ _ _ _ _ collides => cases collides <;> exact Fault.noConfusion

end

end Chronicle.Library
