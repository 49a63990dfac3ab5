import Mathlib.Data.List.Forall2
import Chronicle.Yaml.Value

/-!
# The pairs of a mapping

Taking out the pair under a text moves other pairs, but what is left is the same
up to order.  Values that differ in the order of pairs only, however deep, are
reorderings of each other.
-/

namespace Chronicle.Yaml.Value

/-! ## Single pairs -/

theorem same_string_iff
    {key : Value} {name : String} :
    key.same (.string name) = true ↔ key = .string name := by
  cases key <;> simp [same]

section

variable {name : String} {value : Value} {pairs before after rest : List (Value × Value)}

theorem get?_eq_some_iff :
    get? name pairs = some value ↔
      ∃ before after, pairs = before ++ (.string name, value) :: after ∧
        ∀ pair ∈ before, pair.1 ≠ .string name := by
  rw [get?, Option.map_eq_some_iff]
  simp only [List.find?_eq_some_iff_append, Bool.not_eq_true', same_string_iff]
  constructor
  · rintro ⟨⟨key, _⟩, ⟨rfl, before, after, split, others⟩, rfl⟩
    refine ⟨before, after, split, ?_⟩
    intro pair member isName
    have notSame := others pair member
    rw [same_string_iff.mpr isName] at notSame
    cases notSame
  · rintro ⟨before, after, split, others⟩
    refine ⟨(.string name, value), ⟨rfl, before, after, split, ?_⟩, rfl⟩
    intro pair member
    rw [Bool.eq_false_iff]
    exact fun isSame => others pair member (same_string_iff.mp isSame)

theorem get?_eq_none_iff :
    get? name pairs = none ↔ ∀ pair ∈ pairs, pair.1 ≠ .string name := by
  rw [get?, Option.map_eq_none_iff, List.find?_eq_none]
  simp only [same_string_iff, Ne]

/-- The last pair closes the gap. -/
theorem swapRemove_perm (pair : Value × Value) :
    (swapRemove before.length (before ++ pair :: after)).Perm (before ++ after) := by
  rcases List.eq_nil_or_concat after with rfl | ⟨middle, last, rfl⟩
  · simp [swapRemove]
  · rw [List.concat_eq_append, swapRemove]
    have ends : (before ++ pair :: (middle ++ [last])).getLast? = some last := by
      simp [List.getLast?_append, List.getLast?_cons]
    have filled : (before ++ pair :: (middle ++ [last])).set before.length last =
        (before ++ last :: middle) ++ [last] := by
      simp
    simp only [ends, filled, List.dropLast_concat]
    exact (List.perm_append_singleton last middle).symm.append_left before

theorem erase_of_absent
    (absent : ∀ pair ∈ pairs, pair.1 ≠ .string name) :
    erase name pairs = pairs := by
  have noIndex : indexOfKey name pairs = none := by
    rw [indexOfKey, List.findIdx?_eq_none_iff]
    intro pair member
    rw [Bool.eq_false_iff]
    exact fun isSame => absent pair member (same_string_iff.mp isSame)
  rw [erase, noIndex]

theorem perm_of_get?
    (found : get? name pairs = some value) :
    pairs.Perm ((.string name, value) :: erase name pairs) := by
  obtain ⟨before, after, rfl, others⟩ := get?_eq_some_iff.mp found
  have index : indexOfKey name (before ++ (.string name, value) :: after) =
      some before.length := by
    rw [indexOfKey, List.findIdx?_append, List.findIdx?_eq_none_iff.mpr]
    · simp [List.findIdx?_cons, same_string_iff.mpr]
    · intro pair member
      rw [Bool.eq_false_iff]
      exact fun isSame => others pair member (same_string_iff.mp isSame)
  rw [erase, index]
  exact List.perm_middle.trans ((swapRemove_perm _).symm.cons _)

/-- A pair that is alone under its text is found, and the others are left. -/
theorem get?_of_perm
    (parts : pairs.Perm ((.string name, value) :: rest))
    (alone : ∀ pair ∈ rest, pair.1 ≠ .string name) :
    get? name pairs = some value ∧ (erase name pairs).Perm rest := by
  cases found : get? name pairs with
  | none =>
      have inPairs : (.string name, value) ∈ pairs := parts.mem_iff.mpr (List.mem_cons_self ..)
      exact absurd rfl (get?_eq_none_iff.mp found _ inPairs)
  | some other =>
      have taken := perm_of_get? found
      have inPairs : (.string name, other) ∈ pairs := taken.mem_iff.mpr (List.mem_cons_self ..)
      rcases List.mem_cons.mp (parts.mem_iff.mp inPairs) with same | inRest
      · cases same
        exact ⟨rfl, (taken.symm.trans parts).cons_inv⟩
      · exact absurd rfl (alone _ inRest)

end

/-! ## Induction -/

section

variable {motive : Value → Prop}
  (mapping : ∀ pairs, (∀ pair ∈ pairs, motive pair.2) → motive (.mapping pairs))
  (other : ∀ value, (∀ pairs, value ≠ .mapping pairs) → motive value)

include mapping other

set_option linter.unusedSectionVars false in
mutual

/-- What holds of a mapping as soon as it holds of its values, and of all that
is no mapping, holds of every value. -/
theorem induction_on_pairs (value : Value) : motive value :=
  match value with
  | .mapping pairs => mapping pairs (induction_in_pairs pairs)
  | .null => other .null (by simp)
  | .bool flag => other (.bool flag) (by simp)
  | .number amount => other (.number amount) (by simp)
  | .string text => other (.string text) (by simp)
  | .sequence items => other (.sequence items) (by simp)
  | .tagged tag inner => other (.tagged tag inner) (by simp)
termination_by structural value

theorem induction_in_pairs (pairs : List (Value × Value)) : ∀ pair ∈ pairs, motive pair.2 :=
  match pairs with
  | [] => fun _ member => nomatch member
  | (_, value) :: rest =>
      List.forall_mem_cons.mpr ⟨induction_on_pairs value, induction_in_pairs rest⟩
termination_by structural pairs

end

end

/-! ## Reorderings -/

/-- Two values that differ in the order of pairs only, at any depth. -/
inductive Reordered : Value → Value → Prop
  | refl (value : Value) : Reordered value value
  | trans {value middle other : Value}
      (first : Reordered value middle)
      (second : Reordered middle other) :
      Reordered value other
  | permuted {pairs others : List (Value × Value)}
      (perm : pairs.Perm others) :
      Reordered (.mapping pairs) (.mapping others)
  | inside (before after : List (Value × Value)) (key : Value) {value other : Value}
      (reordered : Reordered value other) :
      Reordered (.mapping (before ++ (key, value) :: after))
        (.mapping (before ++ (key, other) :: after))
  | item (before after : List Value) {value other : Value}
      (reordered : Reordered value other) :
      Reordered (.sequence (before ++ value :: after)) (.sequence (before ++ other :: after))
  | tagged (tag : String) {value other : Value}
      (reordered : Reordered value other) :
      Reordered (.tagged tag value) (.tagged tag other)

theorem Reordered.symm
    {value other : Value}
    (reordered : Reordered value other) :
    Reordered other value := by
  induction reordered with
  | refl value => exact .refl value
  | trans _ _ first second => exact second.trans first
  | permuted perm => exact .permuted perm.symm
  | inside before after key _ inner => exact .inside before after key inner
  | item before after _ inner => exact .item before after inner
  | tagged tag _ inner => exact .tagged tag inner

end Chronicle.Yaml.Value
