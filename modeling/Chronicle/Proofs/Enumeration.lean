import Chronicle.Library
import Chronicle.Proofs.Parameter.Merging

/-!
# Any order of enumeration

A table keeps its pairs in the order of their keys.  A hash map gives them in an
order that nothing fixes, which matters in three places:

* a listing sorts the keys that it was given, and looks the values up;
* a check for collisions sorts the keys of both maps and takes the first;
* a merge writes the pairs as they come.

For every order of the pairs the result is that of the table.
-/

namespace Chronicle

/-! ## Sorting -/

/-- The texts in increasing order, with their repetitions. -/
def sorted (texts : List String) : List String :=
  texts.mergeSort fun left right => decide (left ≤ right)

theorem sorted_pairwise (texts : List String) :
    (sorted texts).Pairwise (· ≤ ·) := by
  refine (List.pairwise_mergeSort ?_ ?_ texts).imp of_decide_eq_true
  · simpa using fun _ _ _ => String.le_trans
  · simpa using String.le_total

theorem sorted_of_perm
    {texts others : List String}
    (permuted : texts.Perm others) :
    sorted texts = sorted others := by
  have sameTexts : (sorted texts).Perm (sorted others) :=
    (List.mergeSort_perm texts _).trans (permuted.trans (List.mergeSort_perm others _).symm)
  refine sameTexts.eq_of_pairwise ?_ (sorted_pairwise texts) (sorted_pairwise others)
  intro earlier later _ _
  exact String.le_antisymm

/-- Texts that increase are what sorting makes of them in any order. -/
theorem sorted_eq_of_perm
    {texts increasing : List String}
    (increases : increasing.Pairwise (· < ·))
    (permuted : texts.Perm increasing) :
    sorted texts = increasing := by
  rw [sorted_of_perm permuted]
  apply List.mergeSort_of_pairwise
  exact increases.imp fun less => decide_eq_true (String.lt_asymm less)

/-! ## Listings and collisions -/

namespace Table

universe u

variable {α : Type u} {table : Table α} {order : List (String × α)}

theorem sorted_filter_keys
    (permuted : order.Perm table.entries)
    (predicate : String × α → Bool) :
    sorted ((order.filter predicate).map Prod.fst) =
      (table.entries.filter predicate).map Prod.fst := by
  apply sorted_eq_of_perm
  · exact List.pairwise_map.mpr (table.ordered.filter predicate)
  · exact (permuted.filter predicate).map Prod.fst

theorem sorted_keys
    (permuted : order.Perm table.entries) :
    sorted (order.map Prod.fst) = table.keys :=
  sorted_eq_of_perm table.keys_pairwise (permuted.map Prod.fst)

/-- Looking up the sorted keys gives the values in the order of the table. -/
theorem filterMap_get?_sorted
    (permuted : order.Perm table.entries) :
    (sorted (order.map Prod.fst)).filterMap table.get? = table.values := by
  have found : ∀ entry ∈ table.entries, table.get? entry.1 = some entry.2 := by
    intro entry member
    exact mem_entries_iff.mp member
  rw [sorted_keys permuted, keys, values, List.filterMap_map, ← List.filterMap_eq_map]
  exact List.filterMap_congr found

/-- The first of the sorted keys with a property is the one that a search
finds. -/
theorem head?_sorted_filter
    (permuted : order.Perm table.entries)
    (predicate : String → Bool) :
    (sorted ((order.map Prod.fst).filter predicate)).head? = table.keys.find? predicate := by
  have isFiltered :
      sorted ((order.map Prod.fst).filter predicate) = table.keys.filter predicate := by
    apply sorted_eq_of_perm
    · exact table.keys_pairwise.filter predicate
    · exact (permuted.map Prod.fst).filter predicate
  rw [isFiltered, List.head?_filter]

/-! ## Writing -/

theorem supplement_of_perm
    (permuted : order.Perm table.entries) (own : Table α) :
    own.supplement order = own.supplement table.entries := by
  have distinct : (order.map Prod.fst).Nodup :=
    (permuted.map Prod.fst).nodup_iff.mpr table.keys_nodup
  apply eq_of_get?_eq
  intro key
  rw [get?_supplement, get?_supplement, lookup_of_perm permuted distinct]

/-- Replacing one value after the other, in any order, replaces all. -/
theorem overwrite_mapped
    (permuted : order.Perm table.entries) (transform : α → α) :
    table.overwrite (order.map fun entry => (entry.1, transform entry.2)) =
      table.mapValues transform := by
  have mapped : (order.map fun entry => (entry.1, transform entry.2)).Perm
      (table.mapValues transform).entries :=
    permuted.map _
  have distinct := (table.mapValues transform).keys_nodup
  rw [overwrite_of_perm mapped ((mapped.map Prod.fst).nodup_iff.mpr distinct)]
  apply eq_of_get?_eq
  intro key
  rw [get?_overwrite _ table key distinct]
  change ((table.mapValues transform).get? key).or _ = _
  rw [get?_mapValues]
  cases table.get? key <;> rfl

end Table

/-! ## The parameters -/

namespace Parameter.Store

/-- Both copy the same definitions, or report the same ID. -/
theorem inheritAlong_eq_inheritInPlace
    {store other : Store}
    (otherKeyed : other.Keyed)
    {order : List (String × Definition)}
    (permuted : order.Perm other.table.entries) :
    inheritAlong order store other = store.inheritInPlace other := by
  cases shared : store.firstShared other with
  | some id => rw [inheritAlong, inheritInPlace, shared]
  | none =>
      have apart : store.Apart other := firstShared_eq_none_iff.mp shared
      have copied := addInPlace_of_ok (addEntries_of_perm otherKeyed apart permuted)
      rw [inheritAlong, shared, inheritInPlace_of_apart otherKeyed shared]
      simp only [copied, mapError_ok]
      rfl

end Parameter.Store

/-! ## Templates -/

namespace Template

open Content (Entry)

section

variable {template ancestor : Template}

theorem contentIds_of_perm
    {order : List (String × Entry)}
    (permuted : order.Perm template.content.entries)
    (withAliases : Bool) :
    sorted ((order.filter fun entry => withAliases || entry.1 == entry.2.id).map Prod.fst) =
      template.contentIds withAliases :=
  Table.sorted_filter_keys permuted _

/-- Inheriting with the content, the presets and the parameters of the ancestor
in the given orders. -/
def inheritAlong (content presets : List (String × Entry))
    (parameters : List (String × Parameter.Definition)) (template ancestor : Template) :
    Template × Except Fault Unit :=
  match (sorted ((content.map Prod.fst).filter template.content.contains)).head? with
  | some id => (template, .error (.inheritance (.sharedContent id ancestor.id template.id)))
  | none =>
      match (sorted (parameters.map Prod.fst)).find? template.parameters.contains with
      | some id =>
          (template, .error (.context s!"inheriting '{ancestor.id}' into '{template.id}'"
            (.duplicate .parameter id template.id ancestor.id)))
      | none =>
          let (grown, outcome) :=
            Parameter.Store.inheritAlong parameters template.parameters ancestor.parameters
          let begun := { template with parameters := grown }
          match outcome with
          | .error fault => (begun, .error fault)
          | .ok () =>
              ({ begun with
                content := begun.content.overwrite content
                presets := begun.presets.supplement presets }, .ok ())

/-- No order of the ancestor's content, presets and parameters shows in what
inheriting leaves or reports. -/
theorem inheritAlong_eq_inheritInPlace
    (keyed : ancestor.parameters.Keyed)
    {content presets : List (String × Entry)}
    {parameters : List (String × Parameter.Definition)}
    (contentPermuted : content.Perm ancestor.content.entries)
    (presetsPermuted : presets.Perm ancestor.presets.entries)
    (parametersPermuted : parameters.Perm ancestor.parameters.table.entries) :
    inheritAlong content presets parameters template ancestor =
      template.inheritInPlace ancestor := by
  have distinct : (content.map Prod.fst).Nodup :=
    (contentPermuted.map Prod.fst).nodup_iff.mpr ancestor.content.keys_nodup
  have sameContent (own : Table Entry) :
      own.overwrite content = own.overwrite ancestor.content.entries :=
    Table.overwrite_of_perm contentPermuted distinct own
  rw [inheritAlong, inheritInPlace, firstSharedContent, Parameter.Store.firstShared,
    Table.head?_sorted_filter contentPermuted, Table.sorted_keys parametersPermuted]
  simp only [Parameter.Store.inheritAlong_eq_inheritInPlace keyed parametersPermuted, sameContent,
    Table.supplement_of_perm presetsPermuted]
  rfl

/-- The default preset may fill the entries in any order. -/
theorem fillContent_of_perm
    {presets content : Table Entry} {preset : Entry} {order : List (String × Entry)}
    (found : presets.get? defaultPreset = some preset)
    (permuted : order.Perm content.entries) :
    content.overwrite (order.map fun entry => (entry.1, entry.2.fill preset)) =
      fillContent presets content := by
  rw [fillContent, found]
  exact Table.overwrite_mapped permuted fun entry => entry.fill preset

end

end Template

/-! ## Libraries -/

namespace Library

theorem dropRepeats_of_increasing
    {ids : List String}
    (increasing : ids.Pairwise (· < ·)) :
    dropRepeats ids = ids := by
  fun_induction dropRepeats ids with
  | case1 => rfl
  | case2 => rfl
  | case3 second rest _ =>
      exact absurd ((List.pairwise_cons.mp increasing).1 second (List.mem_cons_self ..))
        (String.lt_irrefl second)
  | case4 first second rest _ inductionHypothesis =>
      rw [inductionHypothesis (List.pairwise_cons.mp increasing).2]

section

variable {library : Library} {templates : List (String × Template)}

/-- The listing of a library whose templates and aliases come in the given
orders. -/
def idsAlong (templates : List (String × Template)) (aliases : List (String × String))
    (withAliases : Bool) : List String :=
  let ids := templates.map Prod.fst
  dropRepeats (sorted (if withAliases then ids ++ aliases.map Prod.fst else ids))

theorem idsAlong_eq_ids
    (templatesPermuted : templates.Perm library.templates.entries)
    {aliases : List (String × String)}
    (aliasesPermuted : aliases.Perm library.aliases.entries)
    (withAliases : Bool) :
    idsAlong templates aliases withAliases = library.ids withAliases := by
  cases withAliases with
  | false =>
      change dropRepeats (sorted (templates.map Prod.fst)) = library.templates.keys
      rw [Table.sorted_keys templatesPermuted,
        dropRepeats_of_increasing library.templates.keys_pairwise]
  | true =>
      have permuted : (templates.map Prod.fst ++ aliases.map Prod.fst).Perm
          (library.templates.keys ++ library.aliases.keys) :=
        (templatesPermuted.map Prod.fst).append (aliasesPermuted.map Prod.fst)
      exact congrArg dropRepeats (sorted_of_perm permuted)

theorem describe_of_perm
    (permuted : templates.Perm library.templates.entries)
    (verbose : Bool) :
    "\n".intercalate
        (((sorted (templates.map Prod.fst)).filterMap library.templates.get?).map fun template =>
          template.describe verbose) =
      library.describe verbose := by
  rw [Table.filterMap_get?_sorted permuted, describe]

end

end Library

end Chronicle
