import Chronicle.Proofs.Inheritance

/-!
# Inheriting is associative

Of three generations, the parent may take over the grandparent before the child
inherits from it, or the child may inherit from one after the other.  The checks
on the two ways compare different templates, but together they ask the same:
that the three are apart in pairs.  Then both ways lay the three over each
other.
-/

namespace Chronicle.Template

/-! ## Templates that are apart -/

/-- No content ID and no parameter ID of both templates. -/
structure Apart (template other : Template) : Prop where
  content : template.ContentApart other
  parameters : template.ParametersApart other

section

variable {child parent grandparent merged : Template}

theorem inherit_eq_ok_iff_apart
    (keyed : parent.parameters.Keyed) :
    child.inherit parent = .ok merged ↔ child.Apart parent ∧ merged = child.layOver parent := by
  rw [inherit_eq_ok_iff keyed]
  constructor
  · intro ⟨content, parameters, isMerged⟩
    exact ⟨⟨content, parameters⟩, isMerged⟩
  · intro ⟨apart, isMerged⟩
    exact ⟨apart.content, apart.parameters, isMerged⟩

theorem apart_layOver_left_iff :
    (child.layOver parent).Apart grandparent ↔
      child.Apart grandparent ∧ parent.Apart grandparent := by
  constructor
  · intro apart
    have content := Table.apart_union_left_iff.mp apart.content
    have parameters := Table.apart_union_left_iff.mp apart.parameters
    exact ⟨⟨content.1, parameters.1⟩, content.2, parameters.2⟩
  · intro ⟨childApart, parentApart⟩
    have content := Table.apart_union_left_iff.mpr ⟨childApart.content, parentApart.content⟩
    have parameters :=
      Table.apart_union_left_iff.mpr ⟨childApart.parameters, parentApart.parameters⟩
    exact ⟨content, parameters⟩

theorem apart_layOver_right_iff :
    child.Apart (parent.layOver grandparent) ↔
      child.Apart parent ∧ child.Apart grandparent := by
  constructor
  · intro apart
    have content := Table.apart_union_right_iff.mp apart.content
    have parameters := Table.apart_union_right_iff.mp apart.parameters
    exact ⟨⟨content.1, parameters.1⟩, content.2, parameters.2⟩
  · intro ⟨fromParent, fromGrandparent⟩
    have content :=
      Table.apart_union_right_iff.mpr ⟨fromParent.content, fromGrandparent.content⟩
    have parameters :=
      Table.apart_union_right_iff.mpr ⟨fromParent.parameters, fromGrandparent.parameters⟩
    exact ⟨content, parameters⟩

theorem layOver_assoc (child parent grandparent : Template) :
    (child.layOver parent).layOver grandparent =
      child.layOver (parent.layOver grandparent) := by
  simp only [layOver, Table.union_assoc]

/-! ## The two ways -/

/-- Inherits from the parent as it is after inheriting from the grandparent. -/
def inheritMerged (child parent grandparent : Template) : Except Fault Template := do
  child.inherit (← parent.inherit grandparent)

/-- Inherits from the parent and then from the grandparent. -/
def inheritInTurn (child parent grandparent : Template) : Except Fault Template := do
  (← child.inherit parent).inherit grandparent

/-- No content ID and no parameter ID of any two of three generations. -/
structure AllApart (child parent grandparent : Template) : Prop where
  fromParent : child.Apart parent
  fromGrandparent : child.Apart grandparent
  above : parent.Apart grandparent

theorem inheritMerged_eq_ok_iff
    (keyed : parent.parameters.Keyed)
    (aboveKeyed : grandparent.parameters.Keyed) :
    child.inheritMerged parent grandparent = .ok merged ↔
      AllApart child parent grandparent ∧
        merged = child.layOver (parent.layOver grandparent) := by
  have joinedKeyed : (parent.layOver grandparent).parameters.Keyed := keyed.union aboveKeyed
  rw [inheritMerged, bind_eq_ok_iff]
  constructor
  · intro ⟨joined, isJoined, done⟩
    obtain ⟨above, rfl⟩ := (inherit_eq_ok_iff_apart aboveKeyed).mp isJoined
    obtain ⟨apart, isMerged⟩ := (inherit_eq_ok_iff_apart joinedKeyed).mp done
    obtain ⟨fromParent, fromGrandparent⟩ := apart_layOver_right_iff.mp apart
    exact ⟨⟨fromParent, fromGrandparent, above⟩, isMerged⟩
  · intro ⟨apart, isMerged⟩
    have isJoined : parent.inherit grandparent = .ok (parent.layOver grandparent) :=
      (inherit_eq_ok_iff_apart aboveKeyed).mpr ⟨apart.above, rfl⟩
    have fromJoined : child.Apart (parent.layOver grandparent) :=
      apart_layOver_right_iff.mpr ⟨apart.fromParent, apart.fromGrandparent⟩
    exact ⟨_, isJoined, (inherit_eq_ok_iff_apart joinedKeyed).mpr ⟨fromJoined, isMerged⟩⟩

theorem inheritInTurn_eq_ok_iff
    (keyed : parent.parameters.Keyed)
    (aboveKeyed : grandparent.parameters.Keyed) :
    child.inheritInTurn parent grandparent = .ok merged ↔
      AllApart child parent grandparent ∧
        merged = (child.layOver parent).layOver grandparent := by
  rw [inheritInTurn, bind_eq_ok_iff]
  constructor
  · intro ⟨joined, isJoined, done⟩
    obtain ⟨fromParent, rfl⟩ := (inherit_eq_ok_iff_apart keyed).mp isJoined
    obtain ⟨apart, isMerged⟩ := (inherit_eq_ok_iff_apart aboveKeyed).mp done
    obtain ⟨fromGrandparent, above⟩ := apart_layOver_left_iff.mp apart
    exact ⟨⟨fromParent, fromGrandparent, above⟩, isMerged⟩
  · intro ⟨apart, isMerged⟩
    have isJoined : child.inherit parent = .ok (child.layOver parent) :=
      (inherit_eq_ok_iff_apart keyed).mpr ⟨apart.fromParent, rfl⟩
    have joinedApart : (child.layOver parent).Apart grandparent :=
      apart_layOver_left_iff.mpr ⟨apart.fromGrandparent, apart.above⟩
    exact ⟨_, isJoined, (inherit_eq_ok_iff_apart aboveKeyed).mpr ⟨joinedApart, isMerged⟩⟩

/-- Both ways succeed exactly if the three templates are apart in pairs, and
they end with the same template, which differs from the child in its content,
its presets and its parameters only. -/
theorem inherit_assoc
    (child : Template)
    (parentReachable : parent.Reachable)
    (grandparentReachable : grandparent.Reachable) :
    ((∃ merged, child.inheritMerged parent grandparent = .ok merged) ↔
        ∃ merged, child.inheritInTurn parent grandparent = .ok merged) ∧
      ((∃ merged, child.inheritMerged parent grandparent = .ok merged) ↔
        AllApart child parent grandparent) ∧
      ∀ merged other,
        child.inheritMerged parent grandparent = .ok merged →
        child.inheritInTurn parent grandparent = .ok other →
          merged = other ∧ SameHead merged child := by
  have keyed : parent.parameters.Keyed := parentReachable.parameters.keyed
  have aboveKeyed : grandparent.parameters.Keyed := grandparentReachable.parameters.keyed
  have mergedSucceeds : (∃ merged, child.inheritMerged parent grandparent = .ok merged) ↔
      AllApart child parent grandparent := by
    simp [inheritMerged_eq_ok_iff keyed aboveKeyed]
  have inTurnSucceeds : (∃ merged, child.inheritInTurn parent grandparent = .ok merged) ↔
      AllApart child parent grandparent := by
    simp [inheritInTurn_eq_ok_iff keyed aboveKeyed]
  refine ⟨mergedSucceeds.trans inTurnSucceeds.symm, mergedSucceeds, ?_⟩
  intro merged other isMerged isOther
  have mergedForm := ((inheritMerged_eq_ok_iff keyed aboveKeyed).mp isMerged).2
  have otherForm := ((inheritInTurn_eq_ok_iff keyed aboveKeyed).mp isOther).2
  have same : merged = other := by
    rw [mergedForm, otherForm, layOver_assoc]
  have head : SameHead merged child := by
    rw [mergedForm]
    exact ⟨rfl, rfl, rfl, rfl, rfl⟩
  exact ⟨same, head⟩

end

private def typed (kind name : String) : Yaml.Value × Yaml.Value :=
  (.string name, .mapping [(.string "type", .string kind)])

/-- A scenario, its season and a base.  The preset `wide` of the base is another
one in the season, and the preset `bold` of the season another one in the
scenario. -/
def scenarioSeasonBase : List Record :=
  [{ Record.empty with
      id := some "scenario"
      description := some "Scenario"
      content := some [typed "text" "notes"]
      presets := some [typed "text" "bold"] },
    { Record.empty with
      id := some "season"
      description := some "Season"
      content := some [typed "rectangle" "seal"]
      presets := some [typed "rectangle" "bold", typed "text" "wide"]
      parameters := some [typed "text" "event"] },
    { Record.empty with
      id := some "base"
      description := some "Base"
      content := some [typed "text" "logo"]
      presets := some [typed "multiline" "thin", typed "multiline" "wide"]
      parameters := some [typed "text" "player"] }]

theorem inherit_assoc_scenarioSeasonBase :
    ∃ scenario season base merged,
      ofRecord "scenario.yml" scenarioSeasonBase[0] = .ok scenario ∧
      ofRecord "season.yml" scenarioSeasonBase[1] = .ok season ∧
      ofRecord "base.yml" scenarioSeasonBase[2] = .ok base ∧
      scenario.inheritMerged season base = .ok merged ∧
      scenario.inheritInTurn season base = .ok merged ∧
      AllApart scenario season base ∧
      SameHead merged scenario ∧
      merged.content.keys = ["logo", "notes", "seal"] ∧
      merged.presets.entries.map (fun preset => (preset.1, preset.2.kind)) =
        [("bold", .text), ("thin", .multiline), ("wide", .text)] := by
  obtain ⟨⟨_, _, _, _⟩, steps⟩ := exists_of_isOk
    (ofRecord "scenario.yml" scenarioSeasonBase[0] >>= fun scenario =>
      ofRecord "season.yml" scenarioSeasonBase[1] >>= fun season =>
        ofRecord "base.yml" scenarioSeasonBase[2] >>= fun base =>
          scenario.inheritMerged season base >>= fun merged =>
            .ok (scenario, season, base, merged))
    (by decide +kernel)
  simp only [bind_eq_ok_iff, Except.ok.injEq, Prod.mk.injEq] at steps
  obtain ⟨scenario, isScenario, season, isSeason, base, isBase, merged, isMerged, rfl, rfl, rfl,
    rfl⟩ := steps
  have shown :
      (ofRecord "scenario.yml" scenarioSeasonBase[0] >>= fun scenario =>
        ofRecord "season.yml" scenarioSeasonBase[1] >>= fun season =>
          ofRecord "base.yml" scenarioSeasonBase[2] >>= fun base =>
            scenario.inheritMerged season base).toOption.map
          (fun merged => (merged.content.keys,
            merged.presets.entries.map fun preset => (preset.1, preset.2.kind))) =
        some (["logo", "notes", "seal"],
          [("bold", .text), ("thin", .multiline), ("wide", .text)]) := by
    decide +kernel
  simp only [isScenario, isSeason, isBase, isMerged, bind, Except.bind, Except.toOption,
    Option.map_some, Option.some.injEq, Prod.mk.injEq] at shown
  obtain ⟨sameSuccess, success, sameResult⟩ :=
    inherit_assoc scenario (.ofRecord isSeason) (.ofRecord isBase)
  obtain ⟨other, isOther⟩ := sameSuccess.mp ⟨merged, isMerged⟩
  obtain ⟨rfl, head⟩ := sameResult merged other isMerged isOther
  exact ⟨scenario, season, base, merged, isScenario, isSeason, isBase, isMerged, isOther,
    success.mp ⟨merged, isMerged⟩, head, shown.1, shown.2⟩

end Chronicle.Template
