import Chronicle.Command
import Chronicle.Proofs.Enumeration
import Chronicle.Proofs.Library.Load

/-!
# The tables of a library

A library keeps its templates under their IDs and, in a table beside them, the
IDs that its aliases stand for.  Both tables agree in every library that can be
reached: building fills them together, resolving replaces each template by one
with the same ID and aliases, and a resolution that fails leaves them alone.
Whatever is listed can therefore be looked up.
-/

namespace Chronicle.Library

/-- A library as a caller can have it. -/
inductive Reachable : Library → Prop
  | start : Reachable empty
  | ofBuild {records : List (String × Record)} {library : Library}
      (built : build records = .ok library) :
      Reachable library
  | ofLoad {records : List (String × Record)} {library : Library}
      (loaded : load records = .ok library) :
      Reachable library
  | resolving {library : Library}
      (reachable : Reachable library) :
      Reachable library.resolveInPlace.1

structure Consistent (library : Library) : Prop where
  /-- Every template stands under its own ID. -/
  own : ∀ id template, library.templates.get? id = some template → template.id = id
  /-- No alias is the ID of a template. -/
  apart : ∀ alias_ id, library.aliases.get? alias_ = some id →
    library.templates.get? alias_ = none
  /-- The aliases are those that the templates declare. -/
  listed : ∀ alias_ id, library.aliases.get? alias_ = some id ↔
    ∃ template, library.templates.get? id = some template ∧ alias_ ∈ template.aliases

section

variable {library : Library}

/-! ## Where a library comes from -/

/-- Reaching a library takes one building and at most one resolution that
succeeds. -/
theorem Reachable.origin
    (reachable : library.Reachable) :
    ∃ records built, build records = .ok built ∧
      (library = built ∨ built.resolve = .ok library) := by
  induction reachable with
  | start => exact ⟨[], empty, rfl, Or.inl rfl⟩
  | ofBuild made => exact ⟨_, _, made, Or.inl rfl⟩
  | ofLoad loaded =>
      obtain ⟨built, made, done, _⟩ := load_eq_ok_iff.mp loaded
      exact ⟨_, built, made, Or.inr done⟩
  | @resolving library _ inductionHypothesis =>
      obtain ⟨records, built, made, rfl | done⟩ := inductionHypothesis
      · refine ⟨records, library, made, ?_⟩
        rw [(build_builtFrom made).resolveInPlace_eq]
        cases outcome : library.resolve with
        | error fault => exact Or.inl rfl
        | ok resolved => exact Or.inr rfl
      · have resolution := resolution_of_resolve (build_builtFrom made) done
        rw [resolveInPlace_of_resolved resolution.isResolved]
        exact ⟨records, built, made, Or.inr done⟩

/-! ## Consistency -/

theorem Catalogued.consistent
    {templates : List Template}
    (catalogued : library.Catalogued templates) :
    library.Consistent := by
  refine ⟨catalogued.linked.own, ?_, ?_⟩
  · intro alias_ id found
    obtain ⟨claimant, isClaimant, declared, _⟩ := (catalogued.listed _ _).mp found
    rw [← Option.not_isSome_iff_eq_none, Option.isSome_iff_exists]
    rintro ⟨owner, stored⟩
    obtain ⟨isOwner, own⟩ := (catalogued.stored _ _).mp stored
    have clash : Clash templates owner.id owner claimant :=
      .idAndAlias isOwner isClaimant (own ▸ declared)
    exact clash.duplicate.not_nodup catalogued.distinct
  · intro alias_ id
    rw [catalogued.listed]
    constructor
    · rintro ⟨template, isKnown, declared, own⟩
      exact ⟨template, (catalogued.stored _ _).mpr ⟨isKnown, own⟩, declared⟩
    · rintro ⟨template, stored, declared⟩
      obtain ⟨isKnown, own⟩ := (catalogued.stored _ _).mp stored
      exact ⟨template, isKnown, declared, own⟩

theorem Consistent.linked
    (consistent : library.Consistent) :
    library.Linked :=
  ⟨consistent.own, fun alias_ id found => (consistent.listed alias_ id).mp found⟩

/-- A resolved library has the IDs and the aliases of the library it comes
from. -/
theorem Resolution.consistent
    {resolved : Library}
    (resolution : library.Resolution resolved)
    (consistent : library.Consistent) :
    resolved.Consistent := by
  refine ⟨(resolution.linked consistent.linked).own, ?_, ?_⟩
  · intro alias_ id found
    rw [resolution.aliases] at found
    have absent : library.templates.get? alias_ = none := consistent.apart alias_ id found
    rw [← Table.contains_eq_false_iff] at absent ⊢
    rw [← Bool.not_eq_true, ← Table.mem_keys_iff_contains] at absent ⊢
    rwa [resolution.keys]
  · intro alias_ id
    rw [resolution.aliases, consistent.listed]
    constructor
    · rintro ⟨template, found, declared⟩
      obtain ⟨_, stored, _, isStored, flattened⟩ := resolution.exists_stored found
      exact ⟨stored, isStored, flattened.head.aliases ▸ declared⟩
    · rintro ⟨stored, isStored, declared⟩
      obtain ⟨template, _, found, _, flattened, _⟩ := resolution.stored id stored isStored
      exact ⟨template, found, flattened.head.aliases ▸ declared⟩

theorem Reachable.consistent
    (reachable : library.Reachable) :
    library.Consistent := by
  obtain ⟨records, built, made, origin⟩ := reachable.origin
  obtain ⟨templates, _, catalogued⟩ := exists_catalogue made
  rcases origin with rfl | done
  · exact catalogued.consistent
  · exact (resolution_of_resolve (build_builtFrom made) done).consistent catalogued.consistent

/-! ## Looking templates up -/

/-- A lookup finds the one template whose ID is asked for or that declares the
alias. -/
theorem Consistent.get_eq_ok_iff_named
    (consistent : library.Consistent)
    {reference : String} {template : Template} :
    library.get reference = .ok template ↔
      library.templates.get? template.id = some template ∧
        (template.id = reference ∨ reference ∈ template.aliases) := by
  constructor
  · intro found
    obtain ⟨id, canonical, stored⟩ := get_eq_ok_iff.mp found
    have own := consistent.own id template stored
    subst own
    refine ⟨stored, ?_⟩
    unfold canonicalId at canonical
    split at canonical
    · exact Or.inl (Option.some.inj canonical).symm
    · obtain ⟨claimant, isClaimant, declared⟩ := (consistent.listed _ _).mp canonical
      rw [stored, Option.some.injEq] at isClaimant
      exact Or.inr (isClaimant ▸ declared)
  · rintro ⟨stored, own | declared⟩
    · exact own ▸ get_of_stored stored
    · have leads : library.aliases.get? reference = some template.id :=
        (consistent.listed _ _).mpr ⟨template, stored, declared⟩
      have noId : library.templates.contains reference = false :=
        Table.contains_eq_false_iff.mpr (consistent.apart _ _ leads)
      refine get_eq_ok_iff.mpr ⟨template.id, ?_, stored⟩
      rw [canonicalId, noId]
      exact leads

theorem Consistent.exists_get_iff
    (consistent : library.Consistent)
    {reference : String} :
    (∃ template, library.get reference = .ok template) ↔ reference ∈ library.ids true := by
  constructor
  · rintro ⟨template, found⟩
    obtain ⟨stored, own | declared⟩ := consistent.get_eq_ok_iff_named.mp found
    · subst own
      exact mem_ids_iff.mpr (Or.inl (Table.mem_keys_iff.mpr ⟨template, stored⟩))
    · have leads := (consistent.listed reference template.id).mpr ⟨template, stored, declared⟩
      exact mem_ids_iff.mpr (Or.inr (Table.mem_keys_iff.mpr ⟨template.id, leads⟩))
  · exact consistent.linked.get_of_mem_ids

/-! ## Listing -/

theorem dropRepeats_increasing
    {ids : List String}
    (ordered : ids.Pairwise (· ≤ ·)) :
    (dropRepeats ids).Pairwise (· < ·) := by
  induction ids using dropRepeats.induct with
  | case1 => exact List.Pairwise.nil
  | case2 => exact List.pairwise_singleton ..
  | case3 second rest inductionHypothesis =>
      rw [dropRepeats, if_pos rfl]
      exact inductionHypothesis (List.pairwise_cons.mp ordered).2
  | case4 first second rest different inductionHypothesis =>
      rw [dropRepeats, if_neg different]
      obtain ⟨firstLe, restOrdered⟩ := List.pairwise_cons.mp ordered
      refine List.pairwise_cons.mpr ⟨?_, inductionHypothesis restOrdered⟩
      intro id member
      have firstLess : first < second :=
        Table.lt_of_not_lt_of_ne (firstLe second (List.mem_cons_self ..)) (Ne.symm different)
      by_cases same : id = second
      · exact same ▸ firstLess
      · have inRest : id ∈ rest := (List.mem_cons.mp (mem_dropRepeats.mp member)).resolve_left same
        have secondLe : second ≤ id := (List.pairwise_cons.mp restOrdered).1 id inRest
        exact String.lt_trans firstLess (Table.lt_of_not_lt_of_ne secondLe same)

theorem ids_increasing (library : Library) (withAliases : Bool) :
    (library.ids withAliases).Pairwise (· < ·) := by
  cases withAliases with
  | false => exact library.templates.keys_pairwise
  | true => exact dropRepeats_increasing (sorted_pairwise _)

theorem Consistent.list_lines
    (consistent : library.Consistent) (withAliases verbose : Bool) :
    ∃ lines, (Command.list withAliases verbose).lines library = .ok lines := by
  apply exists_mapM_eq_ok
  intro id listed
  have among : id ∈ library.ids true := by
    cases withAliases with
    | true => exact listed
    | false => exact mem_ids_iff.mpr (Or.inl listed)
  obtain ⟨template, found⟩ := consistent.exists_get_iff.mpr among
  rw [Command.listLine, found]
  exact ⟨_, rfl⟩

/-! ## Resolving -/

theorem Reachable.resolve_ne_notFound
    (reachable : library.Reachable)
    {fault : Fault}
    (failed : library.resolveInPlace.2 = .error fault)
    (subject : Subject) (id : String) :
    fault.root ≠ .notFound subject id := by
  obtain ⟨records, built, made, origin⟩ := reachable.origin
  have builtFrom := build_builtFrom made
  rcases origin with rfl | done
  · rw [builtFrom.resolveInPlace_eq_error_iff] at failed
    rcases resolve_spec builtFrom with ⟨_, succeeded, _⟩ | ⟨_, raised, outcome, _, defect⟩
    · rw [failed] at succeeded
      cases succeeded
    · rw [failed, Except.error.injEq] at outcome
      exact outcome ▸ defect.root_ne_notFound subject id
  · have resolution := resolution_of_resolve builtFrom done
    rw [resolveInPlace_of_resolved resolution.isResolved] at failed
    cases failed

/-! ## The representation -/

/-- In every library that can be reached both tables agree, the listings
increase, a lookup finds exactly what is listed, and no step asks for a template
that is not there. -/
theorem representation
    (reachable : library.Reachable) :
    library.Consistent ∧
      (∀ withAliases, (library.ids withAliases).Pairwise (· < ·)) ∧
      (∀ reference,
        (∃ template, library.get reference = .ok template) ↔ reference ∈ library.ids true) ∧
      (∀ reference template, library.get reference = .ok template ↔
        library.templates.get? template.id = some template ∧
          (template.id = reference ∨ reference ∈ template.aliases)) ∧
      (∀ fault, library.resolveInPlace.2 = .error fault →
        ∀ subject id, fault.root ≠ .notFound subject id) ∧
      (library.validate = library.templates.values.forM fun template =>
        template.validate.mapError (Fault.atLocator template.locator)) ∧
      ∀ withAliases verbose,
        ∃ lines, (Command.list withAliases verbose).lines library = .ok lines := by
  have consistent := reachable.consistent
  exact ⟨consistent, library.ids_increasing, fun _ => consistent.exists_get_iff,
    fun _ _ => consistent.get_eq_ok_iff_named, fun _ => reachable.resolve_ne_notFound,
    library.validate_eq_forM, consistent.list_lines⟩

/-- Resolving fails twice, and an alias still leads to its template. -/
theorem representation_entangled :
    ∃ library fault template lines,
      build entangled = .ok library ∧
      library.resolveInPlace.1.resolveInPlace.2 = .error fault ∧
      (∀ subject id, fault.root ≠ .notFound subject id) ∧
      (library.resolveInPlace.1.ids true).Pairwise (· < ·) ∧
      library.resolveInPlace.1.get "again" = .ok template ∧
      "again" ∈ template.aliases ∧
      (Command.list true false).lines library.resolveInPlace.1 = .ok lines := by
  have evaluated :
      (build entangled).toOption.map (fun library =>
        (library.resolveInPlace.1.resolveInPlace.2.isOk,
          library.resolveInPlace.1.templates.contains "again",
          library.resolveInPlace.1.aliases.contains "again")) = some (false, false, true) := by
    decide +kernel
  obtain ⟨library, built⟩ := exists_of_isOk (build entangled) (by decide +kernel)
  simp only [built, Except.toOption, Option.map_some, Option.some.injEq, Prod.mk.injEq]
    at evaluated
  obtain ⟨fails, noId, isAlias⟩ := evaluated
  obtain ⟨consistent, increasing, lookups, named, notMissing, _, shown⟩ :=
    representation (.resolving (.ofBuild built))
  have listed : "again" ∈ library.resolveInPlace.1.ids true :=
    mem_ids_iff.mpr (Or.inr (Table.mem_keys_iff_contains.mpr isAlias))
  obtain ⟨template, found⟩ := (lookups "again").mpr listed
  obtain ⟨stored, own | declared⟩ := (named "again" template).mp found
  · rw [own, Table.contains_eq_false_iff.mp noId] at stored
    cases stored
  · cases failed : library.resolveInPlace.1.resolveInPlace.2 with
    | ok =>
        rw [failed] at fails
        cases fails
    | error fault =>
        obtain ⟨lines, isLines⟩ := shown true false
        exact ⟨library, fault, template, lines, built, failed, notMissing fault failed,
          increasing true, found, declared, isLines⟩

end

end Chronicle.Library
