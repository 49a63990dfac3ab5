import Chronicle.Proofs.Library.Build

/-!
# Ways up through parent references

An ascent follows parent references from one template to another; a lineage is
an ascent that ends at a template without a parent.  A template has at most one
parent, so any two ascents from it agree as far as the shorter one goes, and
no lineage passes a template twice.
-/

namespace Chronicle.Library

/-- The template that another one names as its parent, by ID or by alias. -/
def IsParent (library : Library) (child parent : Template) : Prop :=
  ∃ reference, child.parent = some reference ∧ library.get reference = .ok parent

/-- Following parent references from `start` through the passed templates leads
to a template. -/
inductive Ascent (library : Library) (start : Template) : List Template → Template → Prop
  | here : Ascent library start [] start
  | up {passed : List Template} {last next : Template}
      (walked : Ascent library start passed last)
      (refers : library.IsParent last next) :
      Ascent library start (passed ++ [last]) next

/-- The ancestors of a template, the nearest first; the last one has no
parent. -/
inductive Lineage (library : Library) : Template → List Template → Prop
  | root {template : Template}
      (noParent : template.parent = none) :
      Lineage library template []
  | child {template parent : Template} {ancestors : List Template}
      (refers : library.IsParent template parent)
      (above : Lineage library parent ancestors) :
      Lineage library template (parent :: ancestors)

section

variable {library : Library}

/-! ## One way only -/

theorem IsParent.unique
    {child parent other : Template}
    (refers : library.IsParent child parent)
    (otherRefers : library.IsParent child other) :
    parent = other := by
  obtain ⟨reference, named, found⟩ := refers
  obtain ⟨otherReference, otherNamed, otherFound⟩ := otherRefers
  rw [named, Option.some.injEq] at otherNamed
  subst otherNamed
  rw [found, Except.ok.injEq] at otherFound
  exact otherFound

theorem Lineage.unique
    {template : Template} {ancestors others : List Template}
    (lineage : library.Lineage template ancestors)
    (other : library.Lineage template others) :
    ancestors = others := by
  induction lineage generalizing others with
  | root noParent =>
      cases other with
      | root => rfl
      | child refers _ =>
          obtain ⟨reference, named, _⟩ := refers
          rw [noParent] at named
          cases named
  | child refers _ inductionHypothesis =>
      cases other with
      | root noParent =>
          obtain ⟨reference, named, _⟩ := refers
          rw [noParent] at named
          cases named
      | child otherRefers otherAbove =>
          cases refers.unique otherRefers
          rw [inductionHypothesis otherAbove]

/-- Every template that an ascent has passed leads to the next one. -/
theorem Ascent.exists_parent
    {start last member : Template} {passed : List Template}
    (walked : library.Ascent start passed last)
    (inPassed : member ∈ passed) :
    ∃ next ∈ passed ++ [last], library.IsParent member next := by
  induction walked with
  | here => cases inPassed
  | @up passed last next _ refers inductionHypothesis =>
      rcases List.mem_append.mp inPassed with earlier | isLast
      · obtain ⟨following, inWalk, followingRefers⟩ := inductionHypothesis earlier
        exact ⟨following, List.mem_append_left _ inWalk, followingRefers⟩
      · rw [List.mem_singleton] at isLast
        exact ⟨next, by simp, isLast ▸ refers⟩

/-- An ascent can be stopped at every template that it passes. -/
theorem Ascent.stop
    {start last middle : Template} {lower upper : List Template}
    (walked : library.Ascent start (lower ++ middle :: upper) last) :
    library.Ascent start lower middle := by
  generalize split : lower ++ middle :: upper = passed at walked
  induction walked generalizing upper with
  | here => simp at split
  | @up passed last next walked refers inductionHypothesis =>
      rcases List.eq_nil_or_concat upper with rfl | ⟨front, final, rfl⟩
      · obtain ⟨rfl, sameLast⟩ := List.append_inj' split rfl
        cases sameLast
        exact walked
      · rw [List.concat_eq_append, ← List.cons_append, ← List.append_assoc] at split
        exact inductionHypothesis (List.append_inj' split rfl).1

theorem Ascent.eq_of_length
    {start last other : Template} {passed otherPassed : List Template}
    (walked : library.Ascent start passed last)
    (otherWalked : library.Ascent start otherPassed other)
    (sameLength : passed.length = otherPassed.length) :
    passed = otherPassed ∧ last = other := by
  induction walked generalizing otherPassed other with
  | here =>
      cases otherWalked with
      | here => exact ⟨rfl, rfl⟩
      | up => simp at sameLength
  | up _ refers inductionHypothesis =>
      cases otherWalked with
      | here => simp at sameLength
      | up otherWalked otherRefers =>
          obtain ⟨rfl, rfl⟩ := inductionHypothesis otherWalked (by simpa using sameLength)
          exact ⟨rfl, refers.unique otherRefers⟩

/-- A longer ascent passes all of a shorter one. -/
theorem Ascent.extends_of_length_lt
    {start last other : Template} {passed otherPassed : List Template}
    (walked : library.Ascent start passed last)
    (otherWalked : library.Ascent start otherPassed other)
    (shorter : passed.length < otherPassed.length) :
    ∃ upper, otherPassed = passed ++ last :: upper := by
  have split :
      otherPassed =
        otherPassed.take passed.length ++
          otherPassed[passed.length] :: otherPassed.drop (passed.length + 1) := by
    rw [← List.drop_eq_getElem_cons shorter, List.take_append_drop]
  rw [split] at otherWalked
  obtain ⟨samePassed, sameLast⟩ :=
    walked.eq_of_length otherWalked.stop (by rw [List.length_take]; omega)
  refine ⟨otherPassed.drop (passed.length + 1), split.trans ?_⟩
  rw [← samePassed, ← sameLast]

/-- There is one template at most where ascents from a start cannot go on. -/
theorem Ascent.unique_of_stuck
    {start last other : Template} {passed otherPassed : List Template}
    (walked : library.Ascent start passed last)
    (stuck : ∀ next, ¬ library.IsParent last next)
    (otherWalked : library.Ascent start otherPassed other)
    (otherStuck : ∀ next, ¬ library.IsParent other next) :
    last = other := by
  rcases Nat.lt_trichotomy passed.length otherPassed.length with shorter | same | longer
  · obtain ⟨upper, rfl⟩ := walked.extends_of_length_lt otherWalked shorter
    have inPassed : last ∈ passed ++ last :: upper := by simp
    obtain ⟨next, _, refers⟩ := otherWalked.exists_parent inPassed
    exact absurd refers (stuck next)
  · exact (walked.eq_of_length otherWalked same).2
  · obtain ⟨upper, rfl⟩ := otherWalked.extends_of_length_lt walked longer
    have inPassed : other ∈ otherPassed ++ other :: upper := by simp
    obtain ⟨next, _, refers⟩ := walked.exists_parent inPassed
    exact absurd refers (otherStuck next)

/-! ## Cycles -/

/-- Behind a cycle no ascent leads anywhere new. -/
theorem Ascent.mem_of_cycle
    {start again last : Template} {passed otherPassed : List Template}
    (walked : library.Ascent start passed again)
    (closes : again ∈ passed)
    (otherWalked : library.Ascent start otherPassed last) :
    last ∈ passed := by
  induction otherWalked with
  | here =>
      cases passed with
      | nil => cases closes
      | cons head rest =>
          have atStart : library.Ascent start [] head := Ascent.stop walked
          cases (Ascent.eq_of_length .here atStart rfl).2
          exact List.mem_cons_self ..
  | up _ refers inductionHypothesis =>
      obtain ⟨following, inWalk, followingRefers⟩ := walked.exists_parent inductionHypothesis
      cases refers.unique followingRefers
      rcases List.mem_append.mp inWalk with inPassed | isAgain
      · exact inPassed
      · rw [List.mem_singleton] at isAgain
        exact isAgain ▸ closes

/-- A cycle is closed at one template only. -/
theorem Ascent.unique_of_cycle
    {start again otherAgain : Template} {passed otherPassed : List Template}
    (walked : library.Ascent start passed again)
    (closes : again ∈ passed)
    (distinct : passed.Nodup)
    (otherWalked : library.Ascent start otherPassed otherAgain)
    (otherCloses : otherAgain ∈ otherPassed)
    (otherDistinct : otherPassed.Nodup) :
    passed = otherPassed ∧ again = otherAgain := by
  rcases Nat.lt_trichotomy passed.length otherPassed.length with shorter | same | longer
  · obtain ⟨upper, rfl⟩ := walked.extends_of_length_lt otherWalked shorter
    have twice := (List.nodup_append.mp otherDistinct).2.2 again closes again (by simp)
    exact absurd rfl twice
  · exact walked.eq_of_length otherWalked same
  · obtain ⟨upper, rfl⟩ := otherWalked.extends_of_length_lt walked longer
    have twice := (List.nodup_append.mp distinct).2.2 otherAgain otherCloses otherAgain (by simp)
    exact absurd rfl twice

/-! ## Lineages -/

/-- A lineage goes on from every template that an ascent reaches. -/
theorem Lineage.drop_ascent
    {start last : Template} {passed ancestors : List Template}
    (lineage : library.Lineage start ancestors)
    (walked : library.Ascent start passed last) :
    ∃ rest, library.Lineage last rest ∧ start :: ancestors = passed ++ last :: rest := by
  induction walked with
  | here => exact ⟨ancestors, lineage, rfl⟩
  | @up passed last next _ refers inductionHypothesis =>
      obtain ⟨rest, above, split⟩ := inductionHypothesis
      cases above with
      | root noParent =>
          obtain ⟨reference, named, _⟩ := refers
          rw [noParent] at named
          cases named
      | @child _ parent rest otherRefers above =>
          cases refers.unique otherRefers
          exact ⟨rest, above, by simpa using split⟩

/-- An ascent below a lineage makes the lineage longer. -/
theorem Ascent.lineage
    {start last : Template} {passed rest : List Template}
    (walked : library.Ascent start passed last)
    (above : library.Lineage last rest) :
    ∃ ancestors, library.Lineage start ancestors ∧
      start :: ancestors = passed ++ last :: rest := by
  induction walked generalizing rest with
  | here => exact ⟨rest, above, rfl⟩
  | @up passed last next _ refers inductionHypothesis =>
      obtain ⟨ancestors, lineage, split⟩ := inductionHypothesis (.child refers above)
      exact ⟨ancestors, lineage, by simpa using split⟩

/-- No ascent along a lineage comes back to a template that it has passed. -/
theorem Lineage.not_mem_of_ascent
    {start last : Template} {passed ancestors : List Template}
    (lineage : library.Lineage start ancestors)
    (walked : library.Ascent start passed last) :
    last ∉ passed := by
  intro again
  obtain ⟨rest, above, split⟩ := lineage.drop_ascent walked
  obtain ⟨lower, upper, passedSplit⟩ := List.append_of_mem again
  subst passedSplit
  obtain ⟨longer, longerAbove, longerSplit⟩ := lineage.drop_ascent walked.stop
  have same : rest = longer := above.unique longerAbove
  have lengths := congrArg List.length (split.symm.trans longerSplit)
  simp only [same, List.length_append, List.length_cons] at lengths
  omega

end

end Chronicle.Library
