import Mathlib.Data.List.Perm.Basic
import Chronicle.Command
import Chronicle.Proofs.Library.Resolution

/-!
# The order of records

The order in which records arrive decides which fault is reported when they do
not make a library, but nothing else.  Records in another order make the same
templates in another order; the names they claim are the same; and a library is
determined by what its tables answer.
-/

namespace Chronicle.Library

section

variable {records others : List (String × Record)} {library other : Library}
variable {templates permuted : List Template}

theorem Made.of_perm
    (reordered : records.Perm others)
    (made : Made records templates) :
    ∃ permuted, Made others permuted ∧ permuted.Perm templates :=
  List.perm_comp_forall₂ reordered.symm made

theorem names_perm
    (reordered : permuted.Perm templates) :
    (names permuted).Perm (names templates) :=
  (reordered.map Template.id).append (reordered.flatMap_right Template.aliases)

/-- There is one catalogue of the same templates. -/
theorem Catalogued.eq_of_perm
    (catalogued : library.Catalogued templates)
    (otherCatalogued : other.Catalogued permuted)
    (reordered : permuted.Perm templates) :
    library = other := by
  have sameTemplates : library.templates = other.templates := by
    apply Table.eq_of_get?_eq
    intro id
    apply Option.ext
    intro template
    rw [catalogued.stored, otherCatalogued.stored, reordered.mem_iff]
  have sameAliases : library.aliases = other.aliases := by
    apply Table.eq_of_get?_eq
    intro alias_
    apply Option.ext
    intro id
    rw [catalogued.listed, otherCatalogued.listed]
    simp only [reordered.mem_iff]
  obtain ⟨templates, aliases, root, resolved⟩ := library
  obtain ⟨otherTemplates, otherAliases, otherRoot, otherResolved⟩ := other
  cases sameTemplates
  cases sameAliases
  cases catalogued.noRoot
  cases otherCatalogued.noRoot
  cases catalogued.unresolved
  cases otherCatalogued.unresolved
  rfl

theorem build_of_perm
    (reordered : records.Perm others)
    (built : build records = .ok library) :
    build others = .ok library := by
  obtain ⟨templates, made, catalogued⟩ := exists_catalogue built
  obtain ⟨permuted, permutedMade, samePlaces⟩ := made.of_perm reordered
  rcases build_spec others with
    ⟨otherTemplates, other, otherMade, otherBuilt, otherCatalogued⟩ | ⟨fault, _, rejection⟩
  · obtain rfl := permutedMade.unique otherMade
    rw [catalogued.eq_of_perm otherCatalogued samePlaces]
    exact otherBuilt
  · obtain ⟨name, first, second, clash, _⟩ := rejection.clash permutedMade
    have distinct : (names permuted).Nodup :=
      (names_perm samePlaces).nodup_iff.mpr catalogued.distinct
    exact absurd distinct clash.duplicate.not_nodup

/-- The order of the records shows nowhere: they make a library in any order or
in none, and resolving and checking it and all lookups, listings and commands
that follow give the same results. -/
theorem order_irrelevant
    (reordered : records.Perm others) :
    ((∃ library, build records = .ok library) ↔ ∃ library, build others = .ok library) ∧
      ∀ library other, build records = .ok library → build others = .ok other →
        library.resolveInPlace.2 = other.resolveInPlace.2 ∧
        library.resolveInPlace.1.validate = other.resolveInPlace.1.validate ∧
        (∀ reference,
          library.resolveInPlace.1.get reference = other.resolveInPlace.1.get reference) ∧
        (∀ withAliases,
          library.resolveInPlace.1.ids withAliases = other.resolveInPlace.1.ids withAliases) ∧
        (∀ verbose,
          library.resolveInPlace.1.describe verbose = other.resolveInPlace.1.describe verbose) ∧
        (∀ reference written,
          (library.resolveInPlace.1.get reference >>= fun template => template.prepare written) =
            other.resolveInPlace.1.get reference >>= fun template => template.prepare written) ∧
        ∀ command : Command,
          command.lines library.resolveInPlace.1 = command.lines other.resolveInPlace.1 := by
  refine ⟨⟨?_, ?_⟩, ?_⟩
  · rintro ⟨library, built⟩
    exact ⟨library, build_of_perm reordered built⟩
  · rintro ⟨other, built⟩
    exact ⟨other, build_of_perm reordered.symm built⟩
  · intro library other built otherBuilt
    have sameOutcome := (build_of_perm reordered built).symm.trans otherBuilt
    obtain rfl : library = other := Except.ok.inj sameOutcome
    exact ⟨rfl, rfl, fun _ => rfl, fun _ => rfl, fun _ => rfl, fun _ _ => rfl, fun _ => rfl⟩

/-- Most of the entangled templates are defective.  With the files in reverse
the same defect is reported. -/
theorem order_irrelevant_entangled :
    ∃ library other fault,
      build entangled = .ok library ∧
      build entangled.reverse = .ok other ∧
      library.resolveInPlace.2 = .error fault ∧
      other.resolveInPlace.2 = .error fault ∧
      fault.message = "inheritance error: inheritance cycle: a -> b -> c -> b" ∧
      library.resolveInPlace.1.describe true = other.resolveInPlace.1.describe true := by
  obtain ⟨library, built⟩ := exists_of_isOk (build entangled) (by decide +kernel)
  have raised :
      (faultOf? (build entangled >>= fun library => library.resolveInPlace.2)).map
          Fault.message =
        some "inheritance error: inheritance cycle: a -> b -> c -> b" := by
    decide +kernel
  rw [built] at raised
  obtain ⟨fault, isFault, message⟩ := Option.map_eq_some_iff.mp raised
  have failed : library.resolveInPlace.2 = .error fault := faultOf?_eq_some_iff.mp isFault
  obtain ⟨builds, agree⟩ := order_irrelevant (List.reverse_perm entangled).symm
  obtain ⟨other, otherBuilt⟩ := builds.mp ⟨library, built⟩
  obtain ⟨sameOutcome, _, _, _, sameListing, _⟩ := agree library other built otherBuilt
  exact ⟨library, other, fault, built, otherBuilt, failed, sameOutcome.symm.trans failed,
    message, sameListing true⟩

end

end Chronicle.Library
