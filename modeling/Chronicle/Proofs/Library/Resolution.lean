import Chronicle.Proofs.Library.Defect
import Chronicle.Proofs.Library.InPlace

/-!
# Resolving a library

While ancestors are merged, every template is either finished and lies over all
its ancestors, or it is as it was.  One visit keeps this and finishes the
visited template, unless it meets the defect of the template where the way up
began.
-/

namespace Chronicle.Library

/-! ## The invariant -/

/-- The templates of a library with some of them finished. -/
structure Merging (library : Library) (merge : Merge) : Prop where
  finished : ∀ id ∈ merge.finished, ∃ template ancestors,
    library.templates.get? id = some template ∧
      library.Lineage template ancestors ∧
      (template :: ancestors).Pairwise Template.ContentApart ∧
      (template :: ancestors).Pairwise Template.ParametersApart ∧
      merge.templates.get? id = some (template.overAll ancestors)
  untouched : ∀ id, id ∉ merge.finished →
    merge.templates.get? id = library.templates.get? id

section

variable {records : List (String × Record)} {library : Library} {merge : Merge}

theorem Merging.sound
    (merging : library.Merging merge)
    {id : String} {template : Template}
    (isFinished : id ∈ merge.finished)
    (stored : library.templates.get? id = some template) :
    library.Sound template := by
  obtain ⟨other, ancestors, found, lineage, contentApart, parametersApart, _⟩ :=
    merging.finished id isFinished
  rw [stored, Option.some.injEq] at found
  subst found
  exact ⟨ancestors, lineage, contentApart, parametersApart⟩

/-- One more template is finished. -/
theorem Merging.finish
    (merging : library.Merging merge)
    {id : String} {template : Template} {ancestors : List Template}
    (stored : library.templates.get? id = some template)
    (lineage : library.Lineage template ancestors)
    (contentApart : (template :: ancestors).Pairwise Template.ContentApart)
    (parametersApart : (template :: ancestors).Pairwise Template.ParametersApart)
    {templates : Table Template}
    (own : templates.get? id = some (template.overAll ancestors))
    (others : ∀ other, other ≠ id → templates.get? other = merge.templates.get? other) :
    library.Merging ⟨templates, id :: merge.finished⟩ := by
  constructor
  · intro other member
    by_cases same : other = id
    · subst same
      exact ⟨template, ancestors, stored, lineage, contentApart, parametersApart, own⟩
    · have earlier : other ∈ merge.finished := (List.mem_cons.mp member).resolve_left same
      obtain ⟨found, above, known, line, content, parameters, merged⟩ :=
        merging.finished other earlier
      exact ⟨found, above, known, line, content, parameters, (others other same).trans merged⟩
  · intro other absent
    obtain ⟨different, unfinished⟩ : other ≠ id ∧ other ∉ merge.finished := by
      simpa using absent
    rw [others other different]
    exact merging.untouched other unfinished

/-! ## Templates of the library -/

theorem IsParent.stored
    {child parent : Template}
    (refers : library.IsParent child parent) :
    ∃ id, library.templates.get? id = some parent := by
  obtain ⟨reference, _, found⟩ := refers
  obtain ⟨id, _, stored⟩ := get_eq_ok_iff.mp found
  exact ⟨id, stored⟩

/-- With a template its whole lineage is stored. -/
theorem Lineage.stored
    {id : String} {template : Template} {ancestors : List Template}
    (lineage : library.Lineage template ancestors)
    (found : library.templates.get? id = some template) :
    ∀ member ∈ template :: ancestors, ∃ id, library.templates.get? id = some member := by
  induction lineage generalizing id with
  | root =>
      intro member inLineage
      obtain rfl := List.mem_singleton.mp inLineage
      exact ⟨id, found⟩
  | child refers _ inductionHypothesis =>
      intro member inLineage
      rcases List.mem_cons.mp inLineage with rfl | further
      · exact ⟨id, found⟩
      · obtain ⟨parentId, parentFound⟩ := refers.stored
        exact inductionHypothesis parentFound member further

theorem BuiltFrom.reachable
    (built : BuiltFrom records library)
    {id : String} {template : Template}
    (stored : library.templates.get? id = some template) :
    template.Reachable := by
  obtain ⟨locator, record, _, made⟩ := built.source id template stored
  exact .ofRecord made

theorem BuiltFrom.keyed
    (built : BuiltFrom records library)
    {id : String} {template : Template}
    (stored : library.templates.get? id = some template) :
    template.parameters.Keyed :=
  (built.reachable stored).parameters.keyed

/-! ## One merge -/

/-- Merging a finished parent into a template finishes it as well, or
collides. -/
theorem mergeParent_spec
    (built : BuiltFrom records library)
    (merging : library.Merging merge)
    {id parentId : String} {child parent : Template}
    (childStored : library.templates.get? id = some child)
    (unfinished : id ∉ merge.finished)
    (refers : library.IsParent child parent)
    (parentStored : library.templates.get? parentId = some parent)
    (parentFinished : parentId ∈ merge.finished) :
    (∃ templates, mergeParent merge id parentId = .ok ⟨templates, id :: merge.finished⟩ ∧
        library.Merging ⟨templates, id :: merge.finished⟩) ∨
      ∃ ancestors fault, library.Lineage parent ancestors ∧
        (parent :: ancestors).Pairwise Template.ContentApart ∧
        (parent :: ancestors).Pairwise Template.ParametersApart ∧
        Template.Collision child parent ancestors fault ∧
        mergeParent merge id parentId = .error (.context s!"in '{child.locator}'" fault) := by
  obtain ⟨found, ancestors, known, above, contentApart, parametersApart, merged⟩ :=
    merging.finished parentId parentFinished
  rw [parentStored, Option.some.injEq] at known
  subst known
  have current : merge.templates.get? id = some child :=
    (merging.untouched id unfinished).trans childStored
  have keyed : ∀ member ∈ parent :: ancestors, member.parameters.Keyed := by
    intro member inLineage
    obtain ⟨memberId, memberStored⟩ := above.stored parentStored member inLineage
    exact built.keyed memberStored
  rw [mergeParent, merged, current]
  rcases Template.inherit_overAll child keyed with
    ⟨childContentApart, childParametersApart, inherited⟩ | ⟨fault, collides, refused⟩
  · refine Or.inl ⟨merge.templates.insert id (child.overAll (parent :: ancestors)), ?_, ?_⟩
    · simp only [inherited]
      rfl
    · exact merging.finish childStored (.child refers above)
        (List.pairwise_cons.mpr ⟨childContentApart, contentApart⟩)
        (List.pairwise_cons.mpr ⟨childParametersApart, parametersApart⟩)
        (Table.get?_insert_self ..)
        (fun other different => Table.get?_insert_of_ne (Ne.symm different) ..)
  · refine Or.inr ⟨ancestors, fault, above, contentApart, parametersApart, collides, ?_⟩
    simp only [refused]
    cases collides <;> rfl

/-! ## One visit -/

/-- The templates passed on the way up from `start`, with their IDs as the
chain. -/
structure Way
    (library : Library) (start : Template) (chain : List String) (passed : List Template)
    (template : Template) : Prop where
  walked : library.Ascent start passed template
  ids : chain = passed.map Template.id
  known : ∀ member ∈ passed, library.templates.get? member.id = some member
  distinct : chain.Nodup

theorem Way.up
    {start template parent : Template} {chain : List String} {passed : List Template}
    (way : library.Way start chain passed template)
    (stored : library.templates.get? template.id = some template)
    (notOnChain : template.id ∉ chain)
    (refers : library.IsParent template parent) :
    library.Way start (chain ++ [template.id]) (passed ++ [template]) parent := by
  refine ⟨.up way.walked refers, by simp [way.ids], ?_, ?_⟩
  · intro member inPassed
    rcases List.mem_append.mp inPassed with earlier | isLast
    · exact way.known member earlier
    · rw [List.mem_singleton.mp isLast]
      exact stored
  · rw [List.nodup_append]
    refine ⟨way.distinct, by simp, ?_⟩
    intro earlier inChain last isLast same
    rw [List.mem_singleton] at isLast
    exact notOnChain (isLast ▸ same ▸ inChain)

/-- A template that is on the chain already closes a cycle. -/
theorem Way.cycle
    {start template : Template} {chain : List String} {passed : List Template}
    (way : library.Way start chain passed template)
    (stored : library.templates.get? template.id = some template)
    (onChain : template.id ∈ chain) :
    library.Defect start (.inheritance (.cycle chain template.id)) := by
  rw [way.ids] at onChain
  obtain ⟨member, inPassed, sameId⟩ := List.mem_map.mp onChain
  have memberStored := way.known member inPassed
  rw [sameId, stored, Option.some.injEq] at memberStored
  subst memberStored
  rw [way.ids]
  exact .cycle way.walked (way.ids ▸ way.distinct) inPassed

/-- What a visit that began at `start` promises about its outcome.  Nothing on
the chain that was open before is finished by it. -/
def VisitOutcome
    (library : Library) (start : Template) (chain : List String) (id : String) (merge : Merge) :
    Except Fault Merge → Prop
  | .error fault => library.Defect start fault
  | .ok merged =>
      library.Merging merged ∧ id ∈ merged.finished ∧
        (∀ other ∈ merge.finished, other ∈ merged.finished) ∧
        ∀ other ∈ chain, other ∈ merged.finished → other ∈ merge.finished

/-- What a visit does once the parent has been visited. -/
private theorem visit_after_parent
    (built : BuiltFrom records library)
    {start template parent : Template} {chain : List String} {passed : List Template}
    {parentId : String} {merged : Merge}
    (way : library.Way start chain passed template)
    (stored : library.templates.get? template.id = some template)
    (notOnChain : template.id ∉ chain)
    (unfinished : template.id ∉ merge.finished)
    (refers : library.IsParent template parent)
    (parentStored : library.templates.get? parentId = some parent)
    (visited : library.VisitOutcome start (chain ++ [template.id]) parentId merge (.ok merged)) :
    library.VisitOutcome start chain template.id merge
      (mergeParent merged template.id parentId) := by
  obtain ⟨merging, parentFinished, grows, keepsOpen⟩ := visited
  have stillOpen : template.id ∉ merged.finished := fun isFinished =>
    unfinished (keepsOpen template.id (by simp) isFinished)
  rcases mergeParent_spec built merging stored stillOpen refers parentStored parentFinished with
    ⟨templates, finishes, invariant⟩ |
    ⟨ancestors, fault, above, contentApart, parametersApart, collides, refuses⟩
  · rw [finishes]
    refine ⟨invariant, List.mem_cons_self .., ?_, ?_⟩
    · exact fun other earlier => List.mem_cons_of_mem _ (grows other earlier)
    · intro other inChain isFinished
      have different : other ≠ template.id := fun same => notOnChain (same ▸ inChain)
      exact keepsOpen other (List.mem_append_left _ inChain)
        ((List.mem_cons.mp isFinished).resolve_left different)
  · rw [refuses]
    exact .collision way.walked refers above contentApart parametersApart collides

theorem mergeAncestors_spec
    (built : BuiltFrom records library)
    (merging : library.Merging merge)
    {start template : Template} {passed : List Template} {chain : List String} {id : String}
    (way : library.Way start chain passed template)
    (stored : library.templates.get? id = some template) :
    library.VisitOutcome start chain id merge (library.mergeAncestors chain id merge) := by
  -- The induction follows the chain; the invariant is that it spells the way up.
  fun_induction library.mergeAncestors chain id merge generalizing template passed with
  | case1 chain id isFinished =>
      have member : id ∈ merge.finished := by simpa using isFinished
      exact ⟨merging, member, fun _ earlier => earlier, fun _ _ earlier => earlier⟩
  | case2 chain id unfinished onChain =>
      have own : template.id = id := built.linked.own id template stored
      subst own
      exact way.cycle stored (by simpa using onChain)
  | case3 chain id unfinished offChain missing =>
      rw [missing] at stored
      cases stored
  | case4 chain id unfinished offChain found known noParent =>
      rw [known, Option.some.injEq] at stored
      subst stored
      have absent : id ∉ merge.finished := by simpa using unfinished
      have current : merge.templates.get? id = some (found.overAll []) :=
        (merging.untouched id absent).trans known
      refine ⟨?_, List.mem_cons_self .., fun _ => List.mem_cons_of_mem id, ?_⟩
      · exact merging.finish known (.root noParent) (List.pairwise_singleton ..)
          (List.pairwise_singleton ..) current (fun _ _ => rfl)
      · intro other inChain isFinished
        have different : other ≠ id := by
          rintro rfl
          exact offChain (by simpa using inChain)
        exact (List.mem_cons.mp isFinished).resolve_left different
  | case5 chain id unfinished offChain found known reference named unresolved =>
      rw [known, Option.some.injEq] at stored
      subst stored
      rw [← built.linked.own id found known]
      refine .unknownParent way.walked named ?_
      intro parent resolves
      obtain ⟨parentId, canonical, _⟩ := get_eq_ok_iff.mp resolves
      rw [unresolved] at canonical
      cases canonical
  | case6 chain id unfinished offChain found known reference named parentId canonical _
      inductionHypothesis =>
      rw [known, Option.some.injEq] at stored
      subst stored
      have own : found.id = id := built.linked.own id found known
      subst own
      have notOnChain : found.id ∉ chain := by simpa using offChain
      obtain ⟨parent, parentStored⟩ := built.linked.get?_of_canonicalId canonical
      have refers : library.IsParent found parent :=
        ⟨reference, named, get_eq_ok_iff.mpr ⟨parentId, canonical, parentStored⟩⟩
      have visited := inductionHypothesis (way.up known notOnChain refers) parentStored
      cases outcome : library.mergeAncestors (chain ++ [found.id]) parentId merge with
      | error fault =>
          rw [outcome] at visited
          exact visited
      | ok merged =>
          rw [outcome] at visited
          exact visit_after_parent built way known notOnChain (by simpa using unfinished)
            refers parentStored visited

/-! ## All visits -/

theorem mergeAll_spec
    (built : BuiltFrom records library)
    (merging : library.Merging merge)
    {ids : List String}
    (known : ∀ id ∈ ids, ∃ template, library.templates.get? id = some template) :
    (∃ merged, library.mergeAll ids merge = .ok merged ∧ library.Merging merged ∧
        (∀ id ∈ ids, id ∈ merged.finished) ∧
        ∀ id ∈ merge.finished, id ∈ merged.finished) ∨
      ∃ before id after template fault, ids = before ++ id :: after ∧
        library.mergeAll ids merge = .error fault ∧
        library.templates.get? id = some template ∧
        library.Defect template fault ∧
        ∀ earlier ∈ before, ∀ other, library.templates.get? earlier = some other →
          library.Sound other := by
  induction ids generalizing merge with
  | nil => exact Or.inl ⟨merge, rfl, merging, by simp, fun _ earlier => earlier⟩
  | cons head rest inductionHypothesis =>
      obtain ⟨template, stored⟩ := known head (List.mem_cons_self ..)
      have atStart : library.Way template [] [] template :=
        ⟨.here, rfl, by simp, List.nodup_nil⟩
      have visited := mergeAncestors_spec built merging atStart stored
      rw [mergeAll]
      cases outcome : library.mergeAncestors [] head merge with
      | error fault =>
          rw [outcome] at visited
          exact Or.inr ⟨[], head, rest, template, fault, rfl, rfl, stored, visited, by simp⟩
      | ok next =>
          rw [outcome] at visited
          obtain ⟨nextMerging, headFinished, grows, _⟩ := visited
          rcases inductionHypothesis nextMerging
              (fun id member => known id (List.mem_cons_of_mem head member)) with
            ⟨merged, done, mergedMerging, restFinished, restGrows⟩ |
            ⟨before, id, after, other, fault, split, failed, otherStored, defect, sound⟩
          · refine Or.inl ⟨merged, done, mergedMerging, ?_, ?_⟩
            · intro id member
              rcases List.mem_cons.mp member with rfl | inRest
              · exact restGrows id headFinished
              · exact restFinished id inRest
            · exact fun id earlier => restGrows id (grows id earlier)
          · refine Or.inr
              ⟨head :: before, id, after, other, fault, by rw [split]; rfl, failed, otherStored,
                defect, ?_⟩
            intro earlier member found foundStored
            rcases List.mem_cons.mp member with rfl | inBefore
            · exact nextMerging.sound headFinished foundStored
            · exact sound earlier inBefore found foundStored

/-- The template under the least ID of those that are not sound. -/
structure IsFirstDefective (library : Library) (template : Template) : Prop where
  stored : library.templates.get? template.id = some template
  unsound : ¬ library.Sound template
  least : ∀ id other, library.templates.get? id = some other →
    ¬ library.Sound other → template.id ≤ id

/-- Resolving a built library finishes all templates or reports the defect of
the first one that is not sound. -/
theorem resolve_spec
    (built : BuiltFrom records library) :
    (∃ merged, library.resolve =
          .ok { library with templates := merged.templates, resolved := true } ∧
        library.Merging merged ∧
        ∀ id template, library.templates.get? id = some template → id ∈ merged.finished) ∨
      ∃ template fault, library.resolve = .error fault ∧
        library.IsFirstDefective template ∧ library.Defect template fault := by
  have start : library.Merging ⟨library.templates, []⟩ := by
    constructor
    · exact fun id member => by cases member
    · exact fun id _ => rfl
  have known : ∀ id ∈ library.templates.keys, ∃ template,
      library.templates.get? id = some template := fun id member =>
    Table.mem_keys_iff.mp member
  rw [resolve, built.unresolved]
  rcases mergeAll_spec built start known with
    ⟨merged, done, merging, finished, _⟩ |
    ⟨before, id, after, template, fault, split, failed, stored, defect, sound⟩
  · refine Or.inl ⟨merged, ?_, merging, ?_⟩
    · simp only [done]
      rfl
    · exact fun id template stored => finished id (Table.mem_keys_iff.mpr ⟨template, stored⟩)
  · refine Or.inr ⟨template, fault, ?_, ?_, defect⟩
    · simp only [failed]
      rfl
    · have own : template.id = id := built.linked.own id template stored
      refine ⟨own ▸ stored, defect.not_sound, ?_⟩
      intro otherId other otherStored unsound
      rw [own]
      have member : otherId ∈ before ++ id :: after := by
        rw [← split]
        exact Table.mem_keys_iff.mpr ⟨other, otherStored⟩
      have increasing := library.templates.keys_pairwise
      rw [split, List.pairwise_append] at increasing
      rcases List.mem_append.mp member with inBefore | inRest
      · exact absurd (sound otherId inBefore other otherStored) unsound
      · rcases List.mem_cons.mp inRest with rfl | inAfter
        · exact String.le_refl otherId
        · exact String.lt_asymm
            ((List.pairwise_cons.mp increasing.2.1).1 otherId inAfter)

/-! ## The resolved library -/

/-- What is stored for a template once its ancestors are merged: all content and
parameters of its lineage as they were defined, and of the presets under one ID
the nearest. -/
structure Flattened (template : Template) (ancestors : List Template) (stored : Template) :
    Prop where
  content : ∀ key entry, stored.content.get? key = some entry ↔
    ∃ member ∈ template :: ancestors, member.content.get? key = some entry
  parameters : ∀ key definition, stored.parameters.get? key = some definition ↔
    ∃ member ∈ template :: ancestors, member.parameters.get? key = some definition
  presets : ∀ key, stored.presets.get? key =
    (template :: ancestors).findSome? fun member => member.presets.get? key
  head : Template.SameHead stored template

theorem overAll_flattened
    {template : Template} {ancestors : List Template}
    (contentApart : (template :: ancestors).Pairwise Template.ContentApart)
    (parametersApart : (template :: ancestors).Pairwise Template.ParametersApart) :
    Flattened template ancestors (template.overAll ancestors) := by
  have silent : ∀ {α : Type} {table other : Table α} {key : String},
      (∀ key ∈ table.keys, key ∉ other.keys) →
        table.get? key = none ∨ other.get? key = none := by
    intro α table other key apart
    by_cases present : key ∈ table.keys
    · exact Or.inr (Table.lookup_eq_none_iff.mpr (apart key present))
    · exact Or.inl (Table.lookup_eq_none_iff.mpr present)
  refine ⟨?_, ?_, ?_, Template.overAll_sameHead template ancestors⟩
  · intro key entry
    rw [Template.get?_overAll_content]
    exact Template.findSome?_eq_some_iff_of_pairwise
      (contentApart.imp fun apart => silent apart)
  · intro key definition
    rw [Template.get?_overAll_parameters]
    exact Template.findSome?_eq_some_iff_of_pairwise
      (parametersApart.imp fun apart => silent apart)
  · exact Template.get?_overAll_presets template ancestors

/-- Merging changes what the templates hold, but not which templates there
are. -/
theorem Merging.keys_eq
    (merging : library.Merging merge) :
    merge.templates.keys = library.templates.keys := by
  apply Table.keys_eq_of_contains_eq
  intro id
  by_cases isFinished : id ∈ merge.finished
  · obtain ⟨template, ancestors, stored, _, _, _, merged⟩ := merging.finished id isFinished
    rw [Table.contains_iff.mpr ⟨_, stored⟩, Table.contains_iff.mpr ⟨_, merged⟩]
  · rw [Table.contains, Table.contains, merging.untouched id isFinished]

/-- What a resolved library keeps, and what it holds for each template. -/
structure Resolution (library resolved : Library) : Prop where
  keys : resolved.templates.keys = library.templates.keys
  aliases : resolved.aliases = library.aliases
  isResolved : resolved.resolved = true
  stored : ∀ id stored, resolved.templates.get? id = some stored →
    ∃ template ancestors,
      library.templates.get? id = some template ∧
      library.Lineage template ancestors ∧
      Flattened template ancestors stored ∧
      stored = template.overAll ancestors

theorem resolution_of_resolve
    {resolved : Library}
    (built : BuiltFrom records library)
    (done : library.resolve = .ok resolved) :
    library.Resolution resolved := by
  rcases resolve_spec built with ⟨merged, outcome, merging, finished⟩ | ⟨_, _, failed, _⟩
  · rw [outcome, Except.ok.injEq] at done
    subst done
    refine ⟨merging.keys_eq, rfl, rfl, ?_⟩
    intro id stored isStored
    have known : id ∈ library.templates.keys := by
      rw [← merging.keys_eq]
      exact Table.mem_keys_iff.mpr ⟨stored, isStored⟩
    obtain ⟨template, found⟩ := Table.mem_keys_iff.mp known
    obtain ⟨other, ancestors, otherFound, lineage, contentApart, parametersApart, mergedStored⟩ :=
      merging.finished id (finished id template found)
    rw [isStored, Option.some.injEq] at mergedStored
    exact ⟨other, ancestors, otherFound, lineage,
      mergedStored ▸ overAll_flattened contentApart parametersApart, mergedStored⟩
  · rw [failed] at done
    cases done

/-- Every template that was there is there after resolving. -/
theorem Resolution.exists_stored
    {resolved : Library}
    (resolution : library.Resolution resolved)
    {id : String} {template : Template}
    (found : library.templates.get? id = some template) :
    ∃ ancestors stored,
      library.Lineage template ancestors ∧
      resolved.templates.get? id = some stored ∧
      Flattened template ancestors stored := by
  have known : id ∈ resolved.templates.keys := by
    rw [resolution.keys]
    exact Table.mem_keys_iff.mpr ⟨template, found⟩
  obtain ⟨stored, isStored⟩ := Table.mem_keys_iff.mp known
  obtain ⟨other, ancestors, otherFound, lineage, flattened, _⟩ :=
    resolution.stored id stored isStored
  rw [found, Option.some.injEq] at otherFound
  subst otherFound
  exact ⟨ancestors, stored, lineage, isStored, flattened⟩

theorem BuiltFrom.resolveInPlace_eq
    (built : BuiltFrom records library) :
    library.resolveInPlace =
      match library.resolve with
      | .ok resolved => (resolved, .ok ())
      | .error fault => (library, .error fault) :=
  Library.resolveInPlace_eq fun _ _ stored => built.keyed stored

theorem BuiltFrom.resolveInPlace_eq_error_iff
    (built : BuiltFrom records library)
    {fault : Fault} :
    library.resolveInPlace.2 = .error fault ↔ library.resolve = .error fault := by
  rw [built.resolveInPlace_eq]
  cases library.resolve <;> simp

/-- A resolved library holds for every template what its lineage defines, under
the same IDs and aliases, and resolving it again changes nothing. -/
theorem resolve_closed_form
    {resolved : Library}
    (built : build records = .ok library)
    (done : library.resolve = .ok resolved) :
    (∀ id template, library.templates.get? id = some template →
      ∃ ancestors stored,
        library.Lineage template ancestors ∧
        (∀ member ∈ template :: ancestors, ∃ locator record, (locator, record) ∈ records ∧
          Template.ofRecord locator record = .ok member) ∧
        resolved.templates.get? id = some stored ∧
        Flattened template ancestors stored) ∧
      resolved.templates.keys = library.templates.keys ∧
      resolved.aliases = library.aliases ∧
      resolved.resolveInPlace = (resolved, .ok ()) := by
  have invariant := build_builtFrom built
  have resolution := resolution_of_resolve invariant done
  refine ⟨?_, resolution.keys, resolution.aliases, ?_⟩
  · intro id template found
    obtain ⟨ancestors, stored, lineage, isStored, flattened⟩ := resolution.exists_stored found
    refine ⟨ancestors, stored, lineage, ?_, isStored, flattened⟩
    intro member inLineage
    obtain ⟨memberId, memberFound⟩ := lineage.stored found member inLineage
    exact invariant.source memberId member memberFound
  · exact resolveInPlace_of_resolved resolution.isResolved

/-- A template, its parent under an alias, and the parent of that.  The first
and the last have a default preset, and the last a parameter. -/
def threeGenerations : List (String × Record) :=
  [("child.yml", { Record.empty with
      id := some "child"
      description := some "Child"
      parent := some "middle"
      content := some [(.string "c", .mapping [(.string "type", .string "text")])]
      presets := some [(.string "default", .mapping
        [(.string "type", .string "text"), (.string "font", .string "Own")])] }),
    ("base.yml", { Record.empty with
      id := some "base"
      description := some "Base"
      parent := some "root"
      aliases := some ["middle"]
      content := some [(.string "b", .mapping [(.string "type", .string "rectangle")])] }),
    ("root.yml", { Record.empty with
      id := some "root"
      description := some "Root"
      content := some [(.string "r", .mapping [(.string "type", .string "text")])]
      presets := some [(.string "default", .mapping
        [(.string "type", .string "text"), (.string "font", .string "Far")])]
      parameters := some [(.string "p", .mapping [(.string "type", .string "text")])] })]

theorem resolve_closed_form_threeGenerations :
    ∃ library resolved child ancestors stored,
      build threeGenerations = .ok library ∧
      library.resolve = .ok resolved ∧
      library.get "child" = .ok child ∧
      library.Lineage child ancestors ∧
      resolved.templates.get? child.id = some stored ∧
      Flattened child ancestors stored ∧
      resolved.templates.keys = library.templates.keys := by
  obtain ⟨⟨_, _⟩, both⟩ := exists_of_isOk
    (build threeGenerations >>= fun library =>
      library.resolve >>= fun resolved =>
        library.get "child" >>= fun child => .ok (resolved, child))
    (by decide +kernel)
  simp only [bind_eq_ok_iff, Except.ok.injEq, Prod.mk.injEq] at both
  obtain ⟨library, built, resolved, done, child, found, rfl, rfl⟩ := both
  obtain ⟨id, _, childStored⟩ := get_eq_ok_iff.mp found
  obtain ⟨templates, sameKeys, _⟩ := resolve_closed_form built done
  obtain ⟨ancestors, stored, lineage, _, kept, flattened⟩ := templates id child childStored
  have own : child.id = id := (build_builtFrom built).linked.own id child childStored
  exact ⟨library, resolved, child, ancestors, stored, built, done, found, lineage,
    own ▸ kept, flattened, sameKeys⟩

/-- Resolving succeeds exactly if all templates are sound; else it reports the
defect of the first template that is not, and the library stays as it was. -/
theorem resolve_outcome
    (built : build records = .ok library) :
    ((∃ resolved, library.resolve = .ok resolved) ↔
        ∀ id template, library.templates.get? id = some template → library.Sound template) ∧
      (∀ fault, library.resolve = .error fault ↔
        ∃ template, library.IsFirstDefective template ∧ library.Defect template fault) ∧
      ∀ fault, library.resolve = .error fault →
        library.resolveInPlace = (library, .error fault) ∧
          library.resolveInPlace.1.resolveInPlace = (library, .error fault) ∧
          ∀ subject id, fault.root ≠ .notFound subject id := by
  have invariant := build_builtFrom built
  have outcomes := resolve_spec invariant
  refine ⟨⟨?_, ?_⟩, ?_, ?_⟩
  · rintro ⟨resolved, done⟩ id template stored
    rcases outcomes with ⟨merged, _, merging, finished⟩ | ⟨_, _, failed, _⟩
    · exact merging.sound (finished id template stored) stored
    · rw [failed] at done
      cases done
  · intro sound
    rcases outcomes with ⟨merged, outcome, _⟩ | ⟨template, _, _, first, _⟩
    · exact ⟨_, outcome⟩
    · exact absurd (sound template.id template first.stored) first.unsound
  · intro fault
    constructor
    · intro failed
      rcases outcomes with ⟨merged, outcome, _⟩ | ⟨template, raised, outcome, first, defect⟩
      · rw [failed] at outcome
        cases outcome
      · rw [failed, Except.error.injEq] at outcome
        exact ⟨template, first, outcome ▸ defect⟩
    · rintro ⟨template, first, defect⟩
      rcases outcomes with ⟨merged, _, merging, finished⟩ | ⟨other, raised, outcome, otherFirst, otherDefect⟩
      · exact absurd (merging.sound (finished _ _ first.stored) first.stored) first.unsound
      · have sameId : template.id = other.id :=
          String.le_antisymm
            (first.least other.id other otherFirst.stored otherFirst.unsound)
            (otherFirst.least template.id template first.stored first.unsound)
        have sameStored := first.stored
        rw [sameId, otherFirst.stored, Option.some.injEq] at sameStored
        subst sameStored
        rw [outcome, defect.unique otherDefect]
  · intro fault failed
    have kept : library.resolveInPlace = (library, .error fault) := by
      rw [invariant.resolveInPlace_eq, failed]
    refine ⟨kept, by rw [kept, kept], ?_⟩
    rcases outcomes with ⟨merged, outcome, _⟩ | ⟨_, raised, outcome, _, defect⟩
    · rw [failed] at outcome
      cases outcome
    · rw [failed, Except.error.injEq] at outcome
      exact outcome ▸ defect.root_ne_notFound

/-- A cycle that is entered from outside and closed through an alias, beside an
unknown parent and content that is defined twice. -/
def entangled : List (String × Record) :=
  [("a.yml", { Record.empty with
      id := some "a", description := some "A", parent := some "b" }),
    ("b.yml", { Record.empty with
      id := some "b", description := some "B", parent := some "c", aliases := some ["again"] }),
    ("c.yml", { Record.empty with
      id := some "c", description := some "C", parent := some "again" }),
    ("d.yml", { Record.empty with
      id := some "d"
      description := some "D"
      parent := some "e"
      content := some [(.string "x", .mapping [(.string "type", .string "text")])] }),
    ("e.yml", { Record.empty with
      id := some "e"
      description := some "E"
      content := some [(.string "x", .mapping [(.string "type", .string "text")])] }),
    ("f.yml", { Record.empty with
      id := some "f", description := some "F", parent := some "nowhere" })]

theorem resolve_outcome_entangled :
    ∃ library template fault,
      build entangled = .ok library ∧
      library.resolve = .error fault ∧
      fault.message = "inheritance error: inheritance cycle: a -> b -> c -> b" ∧
      library.IsFirstDefective template ∧
      library.Defect template fault ∧
      library.resolveInPlace = (library, .error fault) := by
  obtain ⟨library, built⟩ := exists_of_isOk (build entangled) (by decide +kernel)
  have raised :
      (faultOf? (build entangled >>= resolve)).map Fault.message =
        some "inheritance error: inheritance cycle: a -> b -> c -> b" := by
    decide +kernel
  rw [built] at raised
  obtain ⟨fault, isFault, message⟩ := Option.map_eq_some_iff.mp raised
  have failed : library.resolve = .error fault := faultOf?_eq_some_iff.mp isFault
  obtain ⟨_, reports, keeps⟩ := resolve_outcome built
  obtain ⟨template, first, defect⟩ := (reports fault).mp failed
  exact ⟨library, template, fault, built, failed, message, first, defect, (keeps fault failed).1⟩

end

end Chronicle.Library
