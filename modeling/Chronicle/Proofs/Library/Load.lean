import Chronicle.Proofs.Library.Resolution
import Chronicle.Proofs.Parameter.Samples

/-!
# Loaded libraries

Loading builds, resolves and checks.  Every ID and alias that a loaded library
lists leads to a template, and the parameters of that template, inherited ones
among them, accept their own examples.
-/

namespace Chronicle

/-! ## Checked templates -/

namespace Template

theorem parameters_validate
    {template : Template}
    (checked : template.validate = .ok ()) :
    template.parameters.validate = .ok () := by
  rw [validate, within_eq_ok_iff, bind_eq_ok_iff] at checked
  obtain ⟨⟨⟩, parametersChecked, _⟩ := checked
  exact parametersChecked

theorem prepare_eq_ok_iff
    {template : Template} {written : List String} {processed : Arguments} :
    template.prepare written = .ok processed ↔
      ∃ arguments, Arguments.parse written = .ok arguments ∧
        template.parameters.process arguments = (processed, .ok ()) := by
  rw [prepare, bind_eq_ok_iff]
  apply exists_congr
  intro arguments
  apply and_congr_right
  intro _
  obtain ⟨result, outcome⟩ := template.parameters.process arguments
  rw [bind_eq_ok_iff]
  simp only [within_eq_ok_iff, Prod.mk.injEq]
  constructor
  · rintro ⟨⟨⟩, succeeded, ⟨⟩⟩
    exact ⟨rfl, succeeded⟩
  · rintro ⟨rfl, succeeded⟩
    exact ⟨(), succeeded, rfl⟩

/-- A checked template accepts the examples of its parameters as arguments. -/
theorem prepare_sampleArguments
    {template : Template}
    (keyed : template.parameters.Keyed)
    (checked : template.validate = .ok ()) :
    ∃ processed, template.prepare template.parameters.sampleArguments = .ok processed := by
  have parametersChecked := parameters_validate checked
  obtain ⟨arguments, parsed, entries⟩ :=
    Parameter.Store.parse_sampleArguments keyed parametersChecked
  obtain ⟨processed, done⟩ := Parameter.Store.process_samples keyed parametersChecked entries
  exact ⟨processed, prepare_eq_ok_iff.mpr ⟨arguments, parsed, done⟩⟩

end Template

namespace Library

variable {library : Library}

/-! ## Listed references -/

theorem mem_dropRepeats
    {id : String} {ids : List String} :
    id ∈ dropRepeats ids ↔ id ∈ ids := by
  induction ids using dropRepeats.induct with
  | case1 => rfl
  | case2 => rfl
  | case3 second rest inductionHypothesis =>
      rw [dropRepeats, if_pos rfl, inductionHypothesis]
      simp
  | case4 first second rest different inductionHypothesis =>
      rw [dropRepeats, if_neg different, List.mem_cons, inductionHypothesis]
      exact List.mem_cons.symm

theorem mem_ids_iff
    {reference : String} :
    reference ∈ library.ids true ↔
      reference ∈ library.templates.keys ∨ reference ∈ library.aliases.keys := by
  rw [ids, if_pos rfl, mem_dropRepeats, List.mem_mergeSort, List.mem_append]

/-- Whatever a linked library lists leads to a template. -/
theorem Linked.get_of_mem_ids
    (linked : library.Linked)
    {reference : String}
    (listed : reference ∈ library.ids true) :
    ∃ template, library.get reference = .ok template := by
  have known : ∃ id, library.canonicalId reference = some id := by
    rw [canonicalId]
    split
    · exact ⟨reference, rfl⟩
    · rename_i absent
      rw [mem_ids_iff, Table.mem_keys_iff_contains] at listed
      exact Table.mem_keys_iff.mp (listed.resolve_left absent)
  obtain ⟨id, canonical⟩ := known
  obtain ⟨template, stored⟩ := linked.get?_of_canonicalId canonical
  exact ⟨template, get_eq_ok_iff.mpr ⟨id, canonical, stored⟩⟩

/-! ## Checked libraries -/

/-- Checking a library checks what it stores and looks nothing up. -/
theorem validate_eq_forM (library : Library) :
    library.validate =
      library.templates.values.forM fun template =>
        template.validate.mapError (Fault.atLocator template.locator) := by
  have along : ∀ entries : List (String × Template),
      (∀ entry ∈ entries, entry ∈ library.templates.entries) →
        library.validateIds (entries.map Prod.fst) =
          (entries.map Prod.snd).forM fun template =>
            template.validate.mapError (Fault.atLocator template.locator) := by
    intro entries known
    induction entries with
    | nil => rfl
    | cons entry rest inductionHypothesis =>
        obtain ⟨isEntry, restKnown⟩ := List.forall_mem_cons.mp known
        rw [List.map_cons, validateIds, get_of_stored (Table.mem_entries_iff.mp isEntry),
          inductionHypothesis restKnown]
        rfl
  exact along library.templates.entries fun _ member => member

theorem validate_stored
    (checked : library.validate = .ok ())
    {id : String} {template : Template}
    (stored : library.templates.get? id = some template) :
    template.validate = .ok () := by
  rw [validate_eq_forM, forM_eq_ok_iff] at checked
  have member : template ∈ library.templates.values :=
    List.mem_map.mpr ⟨(id, template), Table.mem_entries_iff.mpr stored, rfl⟩
  exact mapError_eq_ok_iff.mp (checked template member)

theorem load_eq_ok_iff
    {records : List (String × Record)} :
    load records = .ok library ↔
      ∃ built, build records = .ok built ∧ built.resolve = .ok library ∧
        library.validate = .ok () := by
  simp only [load, bind_eq_ok_iff]
  constructor
  · rintro ⟨built, made, resolved, done, ⟨⟩, checked, ⟨⟩⟩
    exact ⟨built, made, done, checked⟩
  · rintro ⟨built, made, done, checked⟩
    exact ⟨built, made, library, done, ⟨⟩, checked, rfl⟩

/-! ## Resolved libraries -/

section

variable {records : List (String × Record)} {resolved : Library}

theorem Resolution.linked
    (resolution : library.Resolution resolved)
    (linked : library.Linked) :
    resolved.Linked := by
  constructor
  · intro id stored isStored
    obtain ⟨template, ancestors, found, _, flattened, _⟩ := resolution.stored id stored isStored
    rw [flattened.head.id, linked.own id template found]
  · intro alias_ id leads
    rw [resolution.aliases] at leads
    obtain ⟨template, found, declared⟩ := linked.aliased alias_ id leads
    obtain ⟨ancestors, stored, _, isStored, flattened⟩ := resolution.exists_stored found
    exact ⟨stored, isStored, flattened.head.aliases ▸ declared⟩

theorem Resolution.keyed
    (resolution : library.Resolution resolved)
    (built : BuiltFrom records library)
    {id : String} {stored : Template}
    (isStored : resolved.templates.get? id = some stored) :
    stored.parameters.Keyed := by
  obtain ⟨template, ancestors, found, lineage, _, rfl⟩ := resolution.stored id stored isStored
  apply Template.overAll_keyed
  intro member inLineage
  obtain ⟨memberId, memberFound⟩ := lineage.stored found member inLineage
  exact built.keyed memberFound

/-- Every listed reference leads to a template that holds all parameters of its
lineage and accepts their examples. -/
theorem prepare_listed
    (loaded : load records = .ok library)
    {reference : String}
    (listed : reference ∈ library.ids true) :
    ∃ template built own ancestors processed,
      library.get reference = .ok template ∧
      build records = .ok built ∧
      built.Lineage own ancestors ∧
      Flattened own ancestors template ∧
      template.prepare template.parameters.sampleArguments = .ok processed := by
  obtain ⟨built, made, done, checked⟩ := load_eq_ok_iff.mp loaded
  have builtFrom := build_builtFrom made
  have resolution := resolution_of_resolve builtFrom done
  obtain ⟨template, found⟩ := (resolution.linked builtFrom.linked).get_of_mem_ids listed
  obtain ⟨id, _, isStored⟩ := get_eq_ok_iff.mp found
  obtain ⟨own, ancestors, _, lineage, flattened, _⟩ := resolution.stored id template isStored
  have keyed := resolution.keyed builtFrom isStored
  have templateChecked := validate_stored checked isStored
  obtain ⟨processed, prepared⟩ := Template.prepare_sampleArguments keyed templateChecked
  exact ⟨template, built, own, ancestors, processed, found, made, lineage, flattened, prepared⟩

end

/-! ## Examples -/

/-- The examples of a checked store can be read as arguments, one for each
parameter, and pass the check of arguments; and so do the examples of every
template that a loaded library lists under an ID or an alias. -/
theorem sampleArguments_accepted :
    (∀ store : Parameter.Store, store.Reachable → store.validate = .ok () →
      ∃ arguments processed,
        Arguments.parse store.sampleArguments = .ok arguments ∧
        arguments.entries = store.table.entries.map (fun entry => (entry.1, entry.2.sample)) ∧
        store.process arguments = (processed, .ok ())) ∧
      ∀ records library, load records = .ok library →
        ∀ reference ∈ library.ids true,
          ∃ template built own ancestors processed,
            library.get reference = .ok template ∧
            build records = .ok built ∧
            built.Lineage own ancestors ∧
            Flattened own ancestors template ∧
            template.prepare template.parameters.sampleArguments = .ok processed := by
  constructor
  · intro store reachable checked
    obtain ⟨arguments, parsed, entries⟩ :=
      Parameter.Store.parse_sampleArguments reachable.keyed checked
    obtain ⟨processed, done⟩ :=
      Parameter.Store.process_samples reachable.keyed checked entries
    exact ⟨arguments, processed, parsed, entries, done⟩
  · intro records library loaded reference listed
    exact prepare_listed loaded listed

/-- A template that is asked for under its alias and inherits one of its two
parameters. -/
def twoSheets : List (String × Record) :=
  [("season.yml", { Record.empty with
      id := some "season"
      description := some "Season"
      aliases := some ["latest"]
      parent := some "base"
      parameters := some [(.string "scenario", .mapping
        [(.string "type", .string "choice"), (.string "description", .string "Scenario"),
          (.string "example", .string "1-01"),
          (.string "choices", .sequence [.string "1-00", .string "1-01"])])] }),
    ("base.yml", { Record.empty with
      id := some "base"
      description := some "Base"
      parameters := some [(.string "society", .mapping
        [(.string "type", .string "societyid"), (.string "description", .string "Society ID"),
          (.string "example", .string "123 - 456")])] })]

theorem sampleArguments_accepted_twoSheets :
    (∃ store arguments processed,
      Parameter.Store.ofPairs Parameter.Store.registration = .ok store ∧
      Arguments.parse store.sampleArguments = .ok arguments ∧
      arguments.keys = store.keys ∧
      store.process arguments = (processed, .ok ())) ∧
      ∃ library template processed,
        load twoSheets = .ok library ∧
        library.get "latest" = .ok template ∧
        template.prepare template.parameters.sampleArguments = .ok processed ∧
        processed.entries = [("scenario", "1-01"), ("society", "123-456"),
          ("society.player", "123"), ("society.char", "456")] := by
  obtain ⟨ofStore, ofLibrary⟩ := sampleArguments_accepted
  constructor
  · obtain ⟨⟨⟩, checks⟩ := exists_of_isOk
      (Parameter.Store.ofPairs Parameter.Store.registration >>= fun store => store.validate)
      (by decide +kernel)
    obtain ⟨store, made, checked⟩ := bind_eq_ok_iff.mp checks
    obtain ⟨arguments, processed, parsed, entries, done⟩ := ofStore store (.ofPairs made) checked
    refine ⟨store, arguments, processed, made, parsed, ?_, done⟩
    rw [Arguments.keys, entries, List.map_map]
    rfl
  · have aliased :
        (load twoSheets).toOption.map (fun library => library.aliases.contains "latest") =
          some true := by
      decide +kernel
    have evaluated :
        (load twoSheets >>= fun library => library.get "latest" >>= fun template =>
            template.prepare template.parameters.sampleArguments).toOption.map
              Arguments.entries =
          some [("scenario", "1-01"), ("society", "123-456"), ("society.player", "123"),
            ("society.char", "456")] := by
      decide +kernel
    obtain ⟨library, loaded⟩ := exists_of_isOk (load twoSheets) (by decide +kernel)
    rw [loaded] at aliased evaluated
    have listed : "latest" ∈ library.ids true :=
      mem_ids_iff.mpr (Or.inr (Table.mem_keys_iff_contains.mpr (Option.some.inj aliased)))
    obtain ⟨template, _, _, _, processed, found, _, _, _, prepared⟩ :=
      ofLibrary twoSheets library loaded "latest" listed
    simp only [bind, Except.bind, found, prepared] at evaluated
    exact ⟨library, template, processed, loaded, found, prepared, Option.some.inj evaluated⟩

end Library

end Chronicle
