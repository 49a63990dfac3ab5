import Chronicle.Proofs.Parameter.Processing

/-!
# Processing what was processed

What processing writes in the place of an argument is accepted in its turn,
stays as it is, and has the same pairs follow from it.  No ID of a parameter is
among the keys of these.  So the pairs under the IDs of parameters stand for the
whole result, which comes out again when they are processed.
-/

namespace Chronicle

namespace Arguments

/-- The pairs with a wanted key, in their order. -/
def restrict (arguments : Arguments) (wanted : String → Bool) : Arguments where
  entries := arguments.entries.filter fun pair => wanted pair.1
  distinct := arguments.distinct.sublist (List.filter_sublist.map Prod.fst)

end Arguments

namespace Parameter

open Yaml (Value)

theorem Definition.Effect.again
    {definition : Definition} {value newValue : String} {derived : List (String × String)}
    (effect : definition.Effect value newValue derived) :
    definition.Effect newValue newValue derived := by
  cases effect with
  | text isText => exact .text isText
  | choice isChoice listed => exact .choice isChoice listed
  | societyId isSocietyId written => exact .societyId isSocietyId written.unpadded

namespace Store

variable {store : Store} {pair : String × String} {pairs : List (String × String)}
  {effect : (String × String) × List (String × String)}
  {effects : List ((String × String) × List (String × String))}

/-! ## The effect of an effect -/

theorem Becomes.again
    (becomes : store.Becomes pair effect) :
    store.Becomes effect.1 effect := by
  cases becomes with
  | intro found isEffect => exact .intro found isEffect.again

theorem becomes_again
    (all : List.Forall₂ store.Becomes pairs effects) :
    List.Forall₂ store.Becomes (effects.map Prod.fst) effects := by
  rw [List.forall₂_map_left_iff, List.forall₂_same]
  intro effect member
  obtain ⟨pair, _, becomes⟩ := Paired.exists_left all member
  exact becomes.again

/-! ## Settled and derived pairs -/

theorem Becomes.contains_key
    (becomes : store.Becomes pair effect) :
    store.contains effect.1.1 = true := by
  cases becomes with
  | intro found _ => exact Table.contains_iff.mpr ⟨_, found⟩

theorem Becomes.contains_derived
    (checked : store.validate = .ok ())
    (becomes : store.Becomes pair effect) :
    ∀ derived ∈ effect.2, store.contains derived.1 = false := by
  intro derived member
  cases becomes with
  | intro found isEffect =>
      have isDerived := isEffect.mem_derivedKeys derived member
      exact (validate_eq_ok_iff.mp checked _ _ found).2 derived.1 isDerived

/-- The keys of a checked store tell the arguments from what follows from
them. -/
theorem filter_contains_effects
    (checked : store.validate = .ok ())
    (all : List.Forall₂ store.Becomes pairs effects) :
    (effects.map Prod.fst ++ effects.flatMap Prod.snd).filter
        (fun pair => store.contains pair.1) =
      effects.map Prod.fst := by
  have settled : ∀ pair ∈ effects.map Prod.fst, store.contains pair.1 = true := by
    intro pair member
    obtain ⟨effect, inEffects, rfl⟩ := List.mem_map.mp member
    obtain ⟨_, _, becomes⟩ := Paired.exists_left all inEffects
    exact becomes.contains_key
  have derived : ∀ pair ∈ effects.flatMap Prod.snd, ¬ store.contains pair.1 = true := by
    intro pair member
    obtain ⟨effect, inEffects, inDerived⟩ := List.mem_flatMap.mp member
    obtain ⟨_, _, becomes⟩ := Paired.exists_left all inEffects
    rw [becomes.contains_derived checked pair inDerived]
    exact Bool.false_ne_true
  rw [List.filter_append, List.filter_eq_self.mpr settled, List.filter_eq_nil_iff.mpr derived,
    List.append_nil]

/-! ## The whole run -/

/-- The pairs of the result whose keys are parameters have the keys of the
arguments, and processing them gives the same result again. -/
theorem process_fixed_point
    (reachable : store.Reachable)
    (checked : store.validate = .ok ())
    {arguments processed : Arguments}
    (done : store.process arguments = (processed, .ok ())) :
    (processed.restrict store.contains).keys = arguments.keys ∧
      store.process (processed.restrict store.contains) = (processed, .ok ()) := by
  have keyed : store.Keyed := reachable.keyed
  obtain ⟨effects, all, entries⟩ := (process_eq_ok_iff keyed checked).mp done
  have restricted :
      (processed.restrict store.contains).entries = effects.map Prod.fst := by
    change processed.entries.filter (fun pair => store.contains pair.1) = _
    rw [entries]
    exact filter_contains_effects checked all
  constructor
  · rw [Arguments.keys, restricted]
    exact keys_of_becomes all
  · apply (process_eq_ok_iff keyed checked).mpr
    refine ⟨effects, ?_, entries⟩
    rw [restricted]
    exact becomes_again all

/-- Two society IDs and a text between them. -/
def company : List (Value × Value) :=
  [(.string "guest", .mapping
      [(.string "type", .string "societyid"), (.string "description", .string "Guest"),
        (.string "example", .string "1-2")]),
    (.string "event", .mapping
      [(.string "type", .string "text"), (.string "description", .string "Event"),
        (.string "example", .string "Convention")]),
    (.string "host", .mapping
      [(.string "type", .string "societyid"), (.string "description", .string "Host"),
        (.string "example", .string "3-4")])]

theorem process_fixed_point_company :
    ∃ store processed,
      ofPairs company = .ok store ∧
      store.validate = .ok () ∧
      store.process
          ⟨[("host", " 12 - 345"), ("event", " Open day"), ("guest", "7-\t٣")], by decide⟩ =
        (processed, .ok ()) ∧
      processed.entries =
        [("host", "12-345"), ("event", " Open day"), ("guest", "7-٣"),
          ("host.player", "12"), ("host.char", "345"),
          ("guest.player", "7"), ("guest.char", "٣")] ∧
      (processed.restrict store.contains).keys = ["host", "event", "guest"] ∧
      store.process (processed.restrict store.contains) = (processed, .ok ()) := by
  obtain ⟨⟨⟩, checks⟩ := exists_of_isOk
    (ofPairs company >>= fun store =>
      store.validate >>= fun _ =>
        (store.process
          ⟨[("host", " 12 - 345"), ("event", " Open day"), ("guest", "7-\t٣")], by decide⟩).2)
    (by decide +kernel)
  simp only [bind_eq_ok_iff] at checks
  obtain ⟨store, made, ⟨⟩, checked, done⟩ := checks
  have written :
      (ofPairs company).toOption.map (fun store =>
        (store.process
          ⟨[("host", " 12 - 345"), ("event", " Open day"), ("guest", "7-\t٣")],
            by decide⟩).1.entries) =
        some [("host", "12-345"), ("event", " Open day"), ("guest", "7-٣"),
          ("host.player", "12"), ("host.char", "345"),
          ("guest.player", "7"), ("guest.char", "٣")] := by
    decide +kernel
  rw [made] at written
  obtain ⟨sameKeys, again⟩ := process_fixed_point (.ofPairs made) checked (Prod.ext rfl done)
  exact ⟨store, _, made, checked, Prod.ext rfl done, Option.some.inj written, sameKeys, again⟩

end Store

end Parameter

end Chronicle
