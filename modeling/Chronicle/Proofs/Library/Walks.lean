import Mathlib.Data.List.Chain
import Mathlib.Data.List.Perm.Subperm
import Chronicle.Proofs.Library.Failure

/-!
# Walks up the inheritance

Merging ancestors follows references, which may lead anywhere.  Its chain never
holds a template twice, so it has at most as many templates as the library, and
the walk ends.  If it ends on the chain, the reported IDs are those of real
templates, each of which refers to the next one.
-/

namespace Chronicle.Library

/-! ## Walks with a limit -/

/-- Merges the ancestors of a template like `mergeAncestors`, but gives up where
the walk is deeper than the limit or its chain holds an ID twice. -/
def mergeWithin (library : Library) :
    Nat → List String → String → Merge → Option (Except Fault Merge)
  | 0, _, _, _ => none
  | depth + 1, chain, id, merge =>
      if ¬ chain.Nodup then none
      else if merge.finished.contains id then some (.ok merge)
      else if chain.contains id then some (.error (.inheritance (.cycle chain id)))
      else
        match library.templates.get? id with
        | none => some (.error (.notFound .template id))
        | some template =>
            match template.parent with
            | none => some (.ok { merge with finished := id :: merge.finished })
            | some reference =>
                match library.canonicalId reference with
                | none => some (.error (.inheritance (.unknownParent id reference)))
                | some parentId =>
                    (mergeWithin library depth (chain ++ [id]) parentId merge).map fun outcome =>
                      outcome.bind fun merged => mergeParent merged id parentId

section

variable {library : Library}

/-- The chain holds different templates, and the limit leaves room for all
others. -/
structure HasRoom (library : Library) (depth : Nat) (chain : List String) : Prop where
  distinct : chain.Nodup
  known : chain ⊆ library.templates.keys
  room : library.size ≤ depth + chain.length

theorem hasRoom_size (library : Library) : library.HasRoom library.size [] :=
  ⟨List.nodup_nil, List.nil_subset _, Nat.le_refl _⟩

/-- Different templates are no more than there are in the library. -/
theorem length_le_size
    {chain : List String}
    (distinct : chain.Nodup)
    (known : chain ⊆ library.templates.keys) :
    chain.length ≤ library.size := by
  have bounded := (distinct.subperm known).length_le
  rwa [Table.keys, List.length_map] at bounded

/-- With one more template on the chain there is room for a call less, and there
was room for a call. -/
theorem HasRoom.up
    {depth : Nat} {chain : List String} {id : String}
    (hasRoom : library.HasRoom depth chain)
    (isNew : id ∉ chain)
    (isTemplate : id ∈ library.templates.keys) :
    ∃ less, depth = less + 1 ∧ library.HasRoom less (chain ++ [id]) := by
  obtain ⟨distinct, known, room⟩ := hasRoom
  have longer : (chain ++ [id]).Nodup := by simpa using distinct.concat isNew
  have longerKnown : chain ++ [id] ⊆ library.templates.keys :=
    List.append_subset.mpr ⟨known, by simpa using isTemplate⟩
  have length : (chain ++ [id]).length = chain.length + 1 := by simp
  have bounded := length_le_size longer longerKnown
  exact ⟨depth - 1, by omega, longer, longerKnown, by omega⟩

/-- The limit is never met while there is room. -/
theorem HasRoom.mergeWithin_eq
    {chain : List String} {depth : Nat}
    (hasRoom : library.HasRoom depth chain)
    (id : String) (merge : Merge) :
    library.mergeWithin (depth + 1) chain id merge =
      some (library.mergeAncestors chain id merge) := by
  -- The induction follows the walk; each step up puts one more template on the chain.
  fun_induction library.mergeAncestors chain id merge generalizing depth with
  | case1 chain id isFinished =>
      rw [mergeWithin, if_neg (not_not_intro hasRoom.distinct), if_pos isFinished]
  | case2 chain id unfinished onChain =>
      rw [mergeWithin, if_neg (not_not_intro hasRoom.distinct), if_neg unfinished, if_pos onChain]
  | case3 chain id unfinished offChain missing =>
      rw [mergeWithin, if_neg (not_not_intro hasRoom.distinct), if_neg unfinished, if_neg offChain]
      simp only [missing]
  | case4 chain id unfinished offChain template found noParent =>
      rw [mergeWithin, if_neg (not_not_intro hasRoom.distinct), if_neg unfinished, if_neg offChain]
      simp only [found, noParent]
  | case5 chain id unfinished offChain template found reference named unresolved =>
      rw [mergeWithin, if_neg (not_not_intro hasRoom.distinct), if_neg unfinished, if_neg offChain]
      simp only [found, named, unresolved]
  | case6 chain id unfinished offChain template found reference named parentId canonical _
      inductionHypothesis =>
      have isNew : id ∉ chain := by simpa using offChain
      obtain ⟨less, rfl, roomAbove⟩ := hasRoom.up isNew (mem_keys_of_get? found)
      rw [mergeWithin, if_neg (not_not_intro hasRoom.distinct), if_neg unfinished, if_neg offChain]
      simp only [found, named, canonical, inductionHypothesis roomAbove]
      rfl

/-! ## Chains of references -/

/-- The template under one ID refers, by ID or by alias, to the one under
another. -/
inductive RefersTo (library : Library) : String → String → Prop
  | byId {childId parentId : String} {child parent : Template}
      (isChild : library.templates.get? childId = some child)
      (refers : child.parent = some parentId)
      (isParent : library.templates.get? parentId = some parent) :
      RefersTo library childId parentId
  | byAlias {childId parentId reference : String} {child parent : Template}
      (isChild : library.templates.get? childId = some child)
      (refers : child.parent = some reference)
      (isParent : library.templates.get? parentId = some parent)
      (declared : reference ∈ parent.aliases)
      (noId : library.templates.get? reference = none) :
      RefersTo library childId parentId

theorem Linked.refersTo
    (linked : library.Linked)
    {childId : String} {child parent : Template}
    (isChild : library.templates.get? childId = some child)
    (isParent : library.IsParent child parent) :
    library.RefersTo childId parent.id := by
  obtain ⟨reference, refers, found⟩ := isParent
  obtain ⟨parentId, canonical, stored⟩ := get_eq_ok_iff.mp found
  rw [linked.own parentId parent stored]
  rw [canonicalId] at canonical
  split at canonical
  · cases canonical
    exact .byId isChild refers stored
  · rename_i absent
    obtain ⟨other, otherStored, declared⟩ := linked.aliased reference parentId canonical
    rw [stored, Option.some.injEq] at otherStored
    subst otherStored
    have noId : library.templates.get? reference = none := by
      rw [Bool.not_eq_true, Table.contains_eq_false_iff] at absent
      exact absent
    exact .byAlias isChild refers stored declared noId

theorem Ascent.head?_eq_start
    {start last : Template} {passed : List Template}
    (walked : library.Ascent start passed last)
    (moved : passed ≠ []) :
    passed.head? = some start := by
  cases passed with
  | nil => exact absurd rfl moved
  | cons head rest =>
      have atStart : library.Ascent start [] head := Ascent.stop walked
      cases (Ascent.eq_of_length .here atStart rfl).2
      rfl

/-- The IDs along an ascent refer each to the next one. -/
theorem Ascent.isChain
    (linked : library.Linked)
    {start last : Template} {passed : List Template}
    (walked : library.Ascent start passed last)
    (stored : library.templates.get? start.id = some start) :
    (passed.map Template.id ++ [last.id]).IsChain library.RefersTo := by
  induction walked with
  | here => exact List.isChain_singleton _
  | @up passed last next walked refers inductionHypothesis =>
      obtain ⟨lastId, found⟩ := walked.stored stored
      have own : last.id = lastId := linked.own lastId last found
      have step : library.RefersTo last.id next.id := linked.refersTo (own ▸ found) refers
      rw [List.map_append, List.append_assoc]
      exact List.isChain_append_cons_cons.mpr
        ⟨inductionHypothesis, step, List.isChain_singleton _⟩

/-- Different templates, each of which refers to the next one, and the last one
back to one of them. -/
structure IsCycle (library : Library) (chain : List String) (again : String) : Prop where
  distinct : chain.Nodup
  known : chain ⊆ library.templates.keys
  linked : (chain ++ [again]).IsChain library.RefersTo
  closes : again ∈ chain

theorem Ascent.isCycle_of_mem
    (linked : library.Linked)
    {start again : Template} {passed : List Template}
    (walked : library.Ascent start passed again)
    (stored : library.templates.get? start.id = some start)
    (distinct : (passed.map Template.id).Nodup)
    (closes : again ∈ passed) :
    library.IsCycle (passed.map Template.id) again.id := by
  refine ⟨distinct, ?_, walked.isChain linked stored, List.mem_map_of_mem closes⟩
  intro id member
  obtain ⟨template, inPassed, rfl⟩ := List.mem_map.mp member
  obtain ⟨lower, upper, rfl⟩ := List.append_of_mem inPassed
  obtain ⟨templateId, found⟩ := walked.stop.stored stored
  have own : template.id = templateId := linked.own templateId template found
  exact Table.mem_keys_iff.mpr ⟨template, own ▸ found⟩

theorem message_cycle
    {chain : List String}
    (moved : chain ≠ [])
    (again : String) :
    (Fault.inheritance (.cycle chain again)).message =
      "inheritance error: inheritance cycle: " ++ " -> ".intercalate (chain ++ [again]) := by
  have heading : "inheritance error: " ++ "inheritance cycle: " =
      "inheritance error: inheritance cycle: " := by
    decide +kernel
  have joined : " -> ".intercalate (chain ++ [again]) =
      " -> ".intercalate chain ++ " -> " ++ again := by
    rw [String.intercalate_append_of_ne_nil moved (List.cons_ne_nil again []),
      String.intercalate_singleton]
  calc
    (Fault.inheritance (.cycle chain again)).message =
        "inheritance error: " ++
          ("inheritance cycle: " ++ " -> ".intercalate chain ++ " -> " ++ again) := rfl
    _ = "inheritance error: inheritance cycle: " ++ " -> ".intercalate (chain ++ [again]) := by
      rw [← heading, joined]
      simp only [String.append_assoc]

/-! ## Walks of a built library -/

/-- From every ID and in every state the ancestors are merged on a chain without
repetitions, at most one call deeper than there are templates.  A cycle that
resolving reports is one of the library, entered at the first template that
has a defect. -/
theorem inheritance_walks
    {records : List (String × Record)}
    (built : build records = .ok library) :
    (∀ id merge, library.mergeWithin (library.size + 1) [] id merge =
        some (library.mergeAncestors [] id merge)) ∧
      ∀ fault chain again,
        library.resolve = .error fault →
        fault.root = .inheritance (.cycle chain again) →
        fault.message =
            "inheritance error: inheritance cycle: " ++ " -> ".intercalate (chain ++ [again]) ∧
          library.IsCycle chain again ∧
          ∃ first, library.IsFirstDefective first ∧ chain.head? = some first.id := by
  constructor
  · intro id merge
    exact (hasRoom_size library).mergeWithin_eq id merge
  · intro fault chain again failed isCycle
    have invariant := build_builtFrom built
    rcases resolve_spec invariant with ⟨_, done, _⟩ | ⟨start, raised, outcome, first, defect⟩
    · rw [failed] at done
      cases done
    · rw [failed, Except.error.injEq] at outcome
      subst outcome
      cases defect with
      | unknownParent => cases isCycle
      | collision _ _ _ _ _ collides => cases collides <;> cases isCycle
      | @cycle passed _ walked distinct closes =>
          cases isCycle
          have moved : passed ≠ [] := List.ne_nil_of_mem closes
          refine ⟨?_, ?_, start, first, ?_⟩
          · exact message_cycle (List.map_eq_nil_iff.not.mpr moved) _
          · exact walked.isCycle_of_mem invariant.linked first.stored distinct closes
          · rw [List.head?_map, walked.head?_eq_start moved, Option.map_some]

theorem inheritance_walks_entangled :
    ∃ library fault chain again first,
      build entangled = .ok library ∧
      library.resolve = .error fault ∧
      fault.message = "inheritance error: inheritance cycle: a -> b -> c -> b" ∧
      library.IsCycle chain again ∧
      library.IsFirstDefective first ∧
      chain.head? = some first.id ∧
      library.mergeWithin 7 [] "a" ⟨library.templates, []⟩ =
        some (library.mergeAncestors [] "a" ⟨library.templates, []⟩) := by
  obtain ⟨library, built⟩ := exists_of_isOk (build entangled) (by decide +kernel)
  have raised :
      (faultOf? (build entangled >>= resolve)).bind bareInheritance? =
        some (.cycle ["a", "b", "c"] "b") := by
    decide +kernel
  have counted : (build entangled).toOption.map Library.size = some 6 := by
    decide +kernel
  rw [built] at raised counted
  obtain ⟨fault, isFault, isCycle⟩ := Option.bind_eq_some_iff.mp raised
  rw [bareInheritance?_eq_some_iff] at isCycle
  have failed : library.resolve = .error fault := faultOf?_eq_some_iff.mp isFault
  obtain ⟨ends, reports⟩ := inheritance_walks built
  obtain ⟨message, cycle, first, isFirst, head⟩ :=
    reports fault ["a", "b", "c"] "b" failed (by rw [isCycle]; rfl)
  have limited := ends "a" ⟨library.templates, []⟩
  rw [Option.some.inj counted] at limited
  exact ⟨library, fault, _, _, first, built, failed, message.trans (by decide), cycle, isFirst,
    head, limited⟩

/-- The limit cannot be lower: a template that refers to itself is met twice. -/
example :
    (build [("a.yml", { Record.empty with
        id := some "a", description := some "A", parent := some "a" })]).toOption.map
      (fun library =>
        (library.mergeWithin library.size [] "a" ⟨library.templates, []⟩).isNone) =
      some true := by
  decide +kernel

end

end Chronicle.Library
