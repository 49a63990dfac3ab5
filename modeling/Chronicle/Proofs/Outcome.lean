import Mathlib.Data.List.Forall2
import Chronicle.Fault

/-!
# Outcomes of composed steps

A computation that may fail is opened from its end: what its result says about
the outcome of each of its steps.
-/

namespace Chronicle

universe u v w

variable {ε ε' : Type u} {α β : Type v}

theorem bind_eq_ok_iff
    {first : Except ε α} {next : α → Except ε β} {result : β} :
    first >>= next = .ok result ↔
      ∃ value, first = .ok value ∧ next value = .ok result := by
  cases first with
  | error fault => simp [bind, Except.bind]
  | ok value => simp [bind, Except.bind]

theorem bind_eq_error_iff
    {first : Except ε α} {next : α → Except ε β} {fault : ε} :
    first >>= next = .error fault ↔
      first = .error fault ∨ ∃ value, first = .ok value ∧ next value = .error fault := by
  cases first with
  | error raised => simp [bind, Except.bind]
  | ok value => simp [bind, Except.bind]

@[simp]
theorem mapError_ok (wrap : ε → ε') (result : α) :
    (Except.ok result).mapError wrap = .ok result := rfl

@[simp]
theorem mapError_error (wrap : ε → ε') (fault : ε) :
    (Except.error fault : Except ε α).mapError wrap = .error (wrap fault) := rfl

theorem mapError_eq_ok_iff
    {wrap : ε → ε'} {outcome : Except ε α} {result : α} :
    outcome.mapError wrap = .ok result ↔ outcome = .ok result := by
  cases outcome <;> simp

theorem mapError_eq_error_iff
    {wrap : ε → ε'} {outcome : Except ε α} {fault : ε'} :
    outcome.mapError wrap = .error fault ↔
      ∃ inner, outcome = .error inner ∧ fault = wrap inner := by
  cases outcome <;> simp [eq_comm]

@[simp]
theorem within_ok {α : Type} (text : String) (result : α) :
    within text (.ok result) = .ok result := rfl

@[simp]
theorem within_error {α : Type} (text : String) (fault : Fault) :
    within text (.error fault : Except Fault α) = .error (.context text fault) := rfl

theorem within_eq_ok_iff
    {α : Type} {text : String} {outcome : Except Fault α} {result : α} :
    within text outcome = .ok result ↔ outcome = .ok result :=
  mapError_eq_ok_iff

theorem within_eq_error_iff
    {α : Type} {text : String} {outcome : Except Fault α} {fault : Fault} :
    within text outcome = .error fault ↔
      ∃ inner, outcome = .error inner ∧ fault = .context text inner :=
  mapError_eq_error_iff

/-- A loop that only checks succeeds if every check does. -/
theorem forM_eq_ok_iff
    {γ : Type w} {check : γ → Except ε PUnit.{v + 1}} {items : List γ} :
    items.forM check = .ok ⟨⟩ ↔ ∀ item ∈ items, check item = .ok ⟨⟩ := by
  induction items with
  | nil => simp [pure, Except.pure]
  | cons head rest inductionHypothesis =>
      have unfolded : (head :: rest).forM check = check head >>= fun _ => rest.forM check := rfl
      rw [unfolded, bind_eq_ok_iff, List.forall_mem_cons, ← inductionHypothesis]
      exact ⟨fun ⟨_, headPasses, restPasses⟩ => ⟨headPasses, restPasses⟩,
        fun ⟨headPasses, restPasses⟩ => ⟨⟨⟩, headPasses, restPasses⟩⟩

/-- A loop that only checks fails with the first check that does. -/
theorem forM_eq_error_iff
    {γ : Type w} {check : γ → Except ε PUnit.{v + 1}} {items : List γ} {fault : ε} :
    items.forM check = .error fault ↔
      ∃ before item after, items = before ++ item :: after ∧
        (∀ earlier ∈ before, check earlier = .ok ⟨⟩) ∧ check item = .error fault := by
  induction items with
  | nil => simp [pure, Except.pure]
  | cons head rest inductionHypothesis =>
      have unfolded : (head :: rest).forM check = check head >>= fun _ => rest.forM check := rfl
      rw [unfolded]
      cases outcome : check head with
      | error raised =>
          constructor
          · intro failed
            exact ⟨[], head, rest, rfl, by simp, outcome.trans failed⟩
          · rintro ⟨before, item, after, split, passed, failed⟩
            rcases List.cons_eq_append_iff.mp split with ⟨rfl, ⟨⟩⟩ | ⟨further, rfl, _⟩
            · exact outcome.symm.trans failed
            · rw [passed head (List.mem_cons_self ..)] at outcome
              cases outcome
      | ok =>
          apply Iff.trans inductionHypothesis
          constructor
          · rintro ⟨before, item, after, rfl, passed, failed⟩
            exact ⟨head :: before, item, after, rfl,
              List.forall_mem_cons.mpr ⟨outcome, passed⟩, failed⟩
          · rintro ⟨before, item, after, split, passed, failed⟩
            rcases List.cons_eq_append_iff.mp split with ⟨rfl, ⟨⟩⟩ | ⟨further, rfl, sameRest⟩
            · rw [outcome] at failed
              cases failed
            · exact ⟨further, item, after, sameRest,
                (List.forall_mem_cons.mp passed).2, failed⟩

/-- A context around a loop of checks is one around each of them. -/
theorem within_forM
    {γ : Type w} (text : String) (check : γ → Except Fault Unit) (items : List γ) :
    within text (items.forM check) = items.forM fun item => within text (check item) := by
  induction items with
  | nil => rfl
  | cons head rest inductionHypothesis =>
      change within text (check head >>= fun _ => rest.forM check) =
        (within text (check head) >>= fun _ => rest.forM fun item => within text (check item))
      rw [← inductionHypothesis]
      cases check head <;> rfl

/-- A loop that collects results succeeds if every item has one. -/
theorem exists_mapM_eq_ok
    {γ : Type w} {compute : γ → Except ε α} {items : List γ}
    (succeeds : ∀ item ∈ items, ∃ result, compute item = .ok result) :
    ∃ results, items.mapM compute = .ok results := by
  induction items with
  | nil => exact ⟨[], rfl⟩
  | cons head rest inductionHypothesis =>
      obtain ⟨headSucceeds, restSucceeds⟩ := List.forall_mem_cons.mp succeeds
      obtain ⟨first, isFirst⟩ := headSucceeds
      obtain ⟨further, isFurther⟩ := inductionHypothesis restSucceeds
      refine ⟨first :: further, ?_⟩
      rw [List.mapM_cons, isFirst, isFurther]
      rfl

theorem mapM_congr
    {γ : Type w} {compute other : γ → Except ε α} {items : List γ}
    (same : ∀ item ∈ items, compute item = other item) :
    items.mapM compute = items.mapM other := by
  induction items with
  | nil => rfl
  | cons head rest inductionHypothesis =>
      obtain ⟨sameHead, sameRest⟩ := List.forall_mem_cons.mp same
      rw [List.mapM_cons, List.mapM_cons, sameHead, inductionHypothesis sameRest]

/-- A loop that collects results succeeds with those of the items, in their
order. -/
theorem mapM_eq_ok_iff
    {γ : Type w} {compute : γ → Except ε α} {items : List γ} {results : List α} :
    items.mapM compute = .ok results ↔
      List.Forall₂ (fun item result => compute item = .ok result) items results := by
  induction items generalizing results with
  | nil => simp [pure, Except.pure, eq_comm]
  | cons head rest inductionHypothesis =>
      rw [List.mapM_cons, bind_eq_ok_iff]
      constructor
      · rintro ⟨first, isFirst, outcome⟩
        obtain ⟨further, isFurther, same⟩ := bind_eq_ok_iff.mp outcome
        cases same
        exact .cons isFirst (inductionHypothesis.mp isFurther)
      · rintro (_ | ⟨isFirst, areFurther⟩)
        exact ⟨_, isFirst, bind_eq_ok_iff.mpr ⟨_, inductionHypothesis.mpr areFurther, rfl⟩⟩

/-- A loop that collects results only checks if the results are left out. -/
theorem map_mapM
    {γ : Type w} (compute : γ → Except ε α) (items : List γ) :
    (items.mapM compute).map (fun _ => PUnit.unit.{v + 1}) =
      items.forM fun item => (compute item).map fun _ => PUnit.unit := by
  induction items with
  | nil => rfl
  | cons head rest inductionHypothesis =>
      have unfolded : ((head :: rest).forM fun item => (compute item).map fun _ => PUnit.unit) =
          (compute head).map (fun _ => PUnit.unit.{v + 1}) >>= fun _ =>
            rest.forM fun item => (compute item).map fun _ => PUnit.unit := rfl
      rw [List.mapM_cons, unfolded, ← inductionHypothesis]
      cases compute head with
      | error fault => rfl
      | ok first => cases rest.mapM compute <;> rfl

theorem map_eq_error_iff
    (change : α → β) {outcome : Except ε α} {fault : ε} :
    outcome.map change = .error fault ↔ outcome = .error fault := by
  cases outcome <;> simp [Except.map]

/-- A loop that collects results fails with the first item that has none. -/
theorem mapM_eq_error_iff
    {γ : Type w} {compute : γ → Except ε α} {items : List γ} {fault : ε} :
    items.mapM compute = .error fault ↔
      ∃ before item after, items = before ++ item :: after ∧
        (∀ earlier ∈ before, ∃ result, compute earlier = .ok result) ∧
        compute item = .error fault := by
  have passes : ∀ item, (compute item).map (fun _ => PUnit.unit.{v + 1}) = .ok ⟨⟩ ↔
      ∃ result, compute item = .ok result := by
    intro item
    cases compute item <;> simp [Except.map]
  rw [← map_eq_error_iff fun _ => PUnit.unit.{v + 1}, map_mapM, forM_eq_error_iff]
  simp only [passes, map_eq_error_iff]

/-- A computation that is known to succeed has a result. -/
theorem exists_of_isOk
    (outcome : Except ε α)
    (succeeds : outcome.isOk = true) :
    ∃ result, outcome = .ok result := by
  cases outcome with
  | error fault => cases succeeds
  | ok result => exact ⟨result, rfl⟩

/-- The fault of a computation that failed. -/
def faultOf? : Except ε α → Option ε
  | .ok _ => none
  | .error fault => some fault

theorem faultOf?_eq_some_iff
    {outcome : Except ε α} {fault : ε} :
    faultOf? outcome = some fault ↔ outcome = .error fault := by
  cases outcome <;> simp [faultOf?]

end Chronicle
