import Chronicle.Library
import Chronicle.Proofs.InPlace

/-!
# Resolving in place

Resolving works on a copy of the templates and looks parents up in the copy,
where some templates have taken in their ancestors already.  The copy names the
same parents as the library, so the walk is the same.  No step writes to the
library itself, and only a run without a fault replaces its templates by the
copy.
-/

namespace Chronicle

/-! ## One visit -/

namespace Resolving

/-- A template that is neither finished nor on the chain is visited by its parent
in the copy. -/
theorem mergeAncestors_of_stored
    {state : Resolving} {chain : List String} {id : String} {template : Template}
    (unfinished : ¬state.copy.finished.contains id = true)
    (offChain : ¬chain.contains id = true)
    (stored : state.copy.templates.get? id = some template) :
    state.mergeAncestors chain id =
      match template.parent with
      | none => (⟨state.library, state.copy.templates, id :: state.copy.finished⟩, .ok ())
      | some reference =>
          match state.library.canonicalId reference with
          | none => (state, .error (.inheritance (.unknownParent id reference)))
          | some parentId =>
              match state.mergeAncestors (chain ++ [id]) parentId with
              | (merged, .ok ()) => merged.mergeParent id parentId
              | (left, .error fault) => (left, .error fault) := by
  rw [mergeAncestors, if_neg unfinished, dif_neg offChain]
  split
  next absent =>
    rw [stored] at absent
    cases absent
  next other isOther =>
    rw [stored, Option.some.injEq] at isOther
    subst isOther
    rfl

end Resolving

namespace Library

/-! ## The working copy -/

/-- The copy names the parents that the library names, and every definition in
it has its own ID. -/
structure Tracks (library : Library) (copy : Merge) : Prop where
  parents : ∀ id, (copy.templates.get? id).map Template.parent =
    (library.templates.get? id).map Template.parent
  keyed : copy.templates.Forall fun _ template => template.parameters.Keyed

section

variable {library : Library} {copy : Merge}

theorem tracks_start
    (keyed : library.templates.Forall fun _ template => template.parameters.Keyed) :
    library.Tracks ⟨library.templates, []⟩ :=
  ⟨fun _ => rfl, keyed⟩

theorem Tracks.get?_eq_none
    (tracks : library.Tracks copy)
    {id : String}
    (missing : library.templates.get? id = none) :
    copy.templates.get? id = none := by
  have parents := tracks.parents id
  rw [missing, Option.map_none, Option.map_eq_none_iff] at parents
  exact parents

theorem Tracks.exists_get?
    (tracks : library.Tracks copy)
    {id : String} {template : Template}
    (found : library.templates.get? id = some template) :
    ∃ current, copy.templates.get? id = some current ∧ current.parent = template.parent := by
  have parents := tracks.parents id
  rw [found, Option.map_some] at parents
  exact Option.map_eq_some_iff.mp parents

/-- Inheriting changes neither the parent of a template nor the IDs of
definitions. -/
theorem Tracks.insert
    (tracks : library.Tracks copy)
    {id parentId : String} {child parent merged : Template}
    (isChild : copy.templates.get? id = some child)
    (isParent : copy.templates.get? parentId = some parent)
    (done : child.inherit parent = .ok merged)
    (finished : List String) :
    library.Tracks ⟨copy.templates.insert id merged, finished⟩ := by
  have parentKeyed := tracks.keyed parentId parent isParent
  obtain ⟨_, _, rfl⟩ := (Template.inherit_eq_ok_iff parentKeyed).mp done
  constructor
  · intro other
    rw [← tracks.parents other, Table.get?_insert]
    by_cases same : id = other
    · subst same
      rw [if_pos rfl, isChild]
      rfl
    · rw [if_neg same]
  · exact tracks.keyed.insert ((tracks.keyed id child isChild).union parentKeyed)

/-! ## One step -/

/-- What a step in the copy has to do with the merge that it carries out: with a
fault the library is what it was, and else the copy is what was merged. -/
def CarriedOut (library : Library) : Except Fault Merge → Resolving × Except Fault Unit → Prop
  | .ok merged, result => result = (⟨library, merged⟩, .ok ()) ∧ library.Tracks merged
  | .error fault, result => result.1.library = library ∧ result.2 = .error fault

/-- A run goes on where its first part ends, and stops where that has a
fault. -/
theorem CarriedOut.bind
    {first : Except Fault Merge} {next : Merge → Except Fault Merge}
    {result : Resolving × Except Fault Unit} {resume : Resolving → Resolving × Except Fault Unit} :
    library.CarriedOut first result →
      (∀ merged, library.Tracks merged →
        library.CarriedOut (next merged) (resume ⟨library, merged⟩)) →
      library.CarriedOut (first >>= next)
        (match result with
          | (merged, .ok ()) => resume merged
          | (left, .error fault) => (left, .error fault)) := by
  intro carriedOut rest
  cases first with
  | ok merged =>
      obtain ⟨rfl, tracks⟩ := carriedOut
      exact rest merged tracks
  | error fault =>
      obtain ⟨left, outcome⟩ := result
      obtain ⟨kept, failed⟩ := carriedOut
      subst failed
      exact ⟨kept, rfl⟩

theorem Tracks.mergeParent
    (tracks : library.Tracks copy) (id parentId : String) :
    library.CarriedOut (mergeParent copy id parentId)
      (Resolving.mergeParent id parentId ⟨library, copy⟩) := by
  rw [Library.mergeParent, Resolving.mergeParent]
  cases isParent : copy.templates.get? parentId with
  | none => exact ⟨rfl, rfl⟩
  | some parent =>
      cases isChild : copy.templates.get? id with
      | none => exact ⟨rfl, rfl⟩
      | some child =>
          have parentKeyed := tracks.keyed parentId parent isParent
          cases done : child.inherit parent with
          | ok merged =>
              simp only [done, Template.inheritInPlace_of_ok parentKeyed done]
              exact ⟨rfl, tracks.insert isChild isParent done _⟩
          | error fault =>
              simp only [done, Template.inheritInPlace_of_error parentKeyed done]
              exact ⟨rfl, rfl⟩

/-! ## The walk -/

theorem Tracks.mergeAncestors
    (tracks : library.Tracks copy) (chain : List String) (id : String) :
    library.CarriedOut (library.mergeAncestors chain id copy)
      (Resolving.mergeAncestors chain id ⟨library, copy⟩) := by
  fun_induction library.mergeAncestors chain id copy with
  | case1 chain id isFinished =>
      rw [Resolving.mergeAncestors, if_pos isFinished]
      exact ⟨rfl, tracks⟩
  | case2 chain id unfinished onChain =>
      rw [Resolving.mergeAncestors, if_neg unfinished, dif_pos onChain]
      exact ⟨rfl, rfl⟩
  | case3 chain id unfinished offChain missing =>
      rw [Resolving.mergeAncestors, if_neg unfinished, dif_neg offChain]
      split
      next => exact ⟨rfl, rfl⟩
      next other stored =>
        rw [tracks.get?_eq_none missing] at stored
        cases stored
  | case4 chain id unfinished offChain template found noParent =>
      obtain ⟨current, isCurrent, sameParent⟩ := tracks.exists_get? found
      rw [Resolving.mergeAncestors_of_stored unfinished offChain isCurrent, sameParent, noParent]
      exact ⟨rfl, tracks.parents, tracks.keyed⟩
  | case5 chain id unfinished offChain template found reference named unresolved =>
      obtain ⟨current, isCurrent, sameParent⟩ := tracks.exists_get? found
      rw [Resolving.mergeAncestors_of_stored unfinished offChain isCurrent, sameParent, named]
      simp only [unresolved]
      exact ⟨rfl, rfl⟩
  | case6 chain id unfinished offChain template found reference named parentId canonical _
      inductionHypothesis =>
      obtain ⟨current, isCurrent, sameParent⟩ := tracks.exists_get? found
      rw [Resolving.mergeAncestors_of_stored unfinished offChain isCurrent, sameParent, named]
      simp only [canonical]
      exact inductionHypothesis.bind fun merged merging => merging.mergeParent id parentId

theorem Tracks.mergeAll
    (tracks : library.Tracks copy) (pending : List String) :
    library.CarriedOut (library.mergeAll pending copy)
      (Resolving.mergeAll pending ⟨library, copy⟩) := by
  induction pending generalizing copy with
  | nil => exact ⟨rfl, tracks⟩
  | cons id rest inductionHypothesis =>
      exact (tracks.mergeAncestors [] id).bind fun _ merging => inductionHypothesis merging

/-! ## The library afterwards -/

theorem resolveInPlace_of_resolved
    (isResolved : library.resolved = true) :
    library.resolveInPlace = (library, .ok ()) := by
  rw [resolveInPlace, if_pos isResolved]

/-- What a caller sees of resolving: the resolved library, or a fault and the
library as it was. -/
theorem resolveInPlace_eq
    (keyed : library.templates.Forall fun _ template => template.parameters.Keyed) :
    library.resolveInPlace =
      match library.resolve with
      | .ok resolved => (resolved, .ok ())
      | .error fault => (library, .error fault) := by
  by_cases isResolved : library.resolved = true
  · rw [resolveInPlace_of_resolved isResolved, resolve, if_pos isResolved]
  · rw [resolveInPlace, resolve, if_neg isResolved, if_neg isResolved]
    have carriedOut := (tracks_start keyed).mergeAll library.templates.keys
    rcases run : Resolving.mergeAll library.templates.keys ⟨library, library.templates, []⟩
      with ⟨left, result⟩
    rw [run] at carriedOut
    cases outcome : library.mergeAll library.templates.keys ⟨library.templates, []⟩ with
    | ok merged =>
        rw [outcome] at carriedOut
        obtain ⟨rfl, rfl⟩ := carriedOut.1
        rfl
    | error fault =>
        rw [outcome] at carriedOut
        obtain ⟨kept, failed⟩ := carriedOut
        subst kept failed
        rfl

end

end Library

end Chronicle
