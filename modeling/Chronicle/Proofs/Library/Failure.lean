import Chronicle.Proofs.Library.Load

/-!
# Failed loads

A failed load has a record that is responsible for it: one that is refused, one
of two that claim a name, one whose template collides with an ancestor, or one
whose template has a reference that leads nowhere.  The fault then tells the
file of this record.  An unknown parent and a cycle are the exception: they are
reported by template IDs alone.
-/

namespace Chronicle

namespace Fault

/-! ## Files that a fault tells -/

inductive Tells (locator : String) (fault : Fault) : Prop
  | loaded {cause : LoadCause} {offset : Option Nat}
      (isRoot : fault.root = .load cause (some locator) offset)
  | located (wrapped : s!"in '{locator}'" ∈ fault.contexts)
  | first {id second : String}
      (isRoot : fault.root = .duplicate .template id locator second)
  | second {id first : String}
      (isRoot : fault.root = .duplicate .template id first locator)

theorem tells_atLocator (locator : String) (fault : Fault) :
    (fault.atLocator locator).Tells locator := by
  cases fault with
  | load cause known offset =>
      cases known with
      | none => exact .loaded rfl
      | some other => exact .located (List.mem_cons_self ..)
  | _ => exact .located (List.mem_cons_self ..)

theorem not_tells_inheritance (locator : String) (cause : InheritanceCause) :
    ¬ (inheritance cause).Tells locator := by
  intro tells
  cases tells with
  | loaded isRoot => cases isRoot
  | located wrapped => cases wrapped
  | first isRoot => cases isRoot
  | second isRoot => cases isRoot

end Fault

/-- Whatever is wrong with a record, the fault tells its file. -/
theorem Template.tells_of_ofRecord
    {locator : String} {record : Record} {fault : Fault}
    (refuses : ofRecord locator record = .error fault) :
    fault.Tells locator := by
  rw [ofRecord] at refuses
  split at refuses
  · rw [Except.error.injEq] at refuses
    exact refuses ▸ Fault.tells_atLocator locator _
  · split at refuses
    · rw [Except.error.injEq] at refuses
      exact refuses ▸ Fault.tells_atLocator locator _
    · simp only [bind_eq_error_iff, mapError_eq_error_iff] at refuses
      have wrapped : ∃ inner, fault = Fault.atLocator locator inner := by
        rcases refuses with ⟨inner, _, isFault⟩ | ⟨_, _, ⟨inner, _, isFault⟩ | ⟨_, _, refuses⟩⟩
        · exact ⟨inner, isFault⟩
        · exact ⟨inner, isFault⟩
        · rcases refuses with ⟨inner, _, isFault⟩ | ⟨_, _, isOk⟩
          · exact ⟨inner, isFault⟩
          · cases isOk
      obtain ⟨inner, rfl⟩ := wrapped
      exact Fault.tells_atLocator locator inner

namespace Library

/-! ## Responsible records -/

/-- The part that a record has in a failed load. -/
inductive Responsible (locator : String) (record : Record) : Fault → Prop
  | refused {fault : Fault}
      (refuses : Template.ofRecord locator record = .error fault) :
      Responsible locator record fault
  | claimant {template : Template} {name first second : String}
      (made : Template.ofRecord locator record = .ok template)
      (claims : template.id = name ∨ name ∈ template.aliases)
      (isNamed : locator = first ∨ locator = second) :
      Responsible locator record (.duplicate .template name first second)
  | colliding {child parent : Template} {ancestors : List Template} {cause : Fault}
      (made : Template.ofRecord locator record = .ok child)
      (collision : Template.Collision child parent ancestors cause) :
      Responsible locator record (.context s!"in '{locator}'" cause)
  | invalid {template stored : Template} {ancestors : List Template} {cause : Fault}
      (made : Template.ofRecord locator record = .ok template)
      (flattened : Flattened template ancestors stored)
      (fails : stored.validate = .error cause) :
      Responsible locator record (cause.atLocator locator)

theorem Responsible.tells
    {locator : String} {record : Record} {fault : Fault}
    (responsible : Responsible locator record fault) :
    fault.Tells locator := by
  cases responsible with
  | refused refuses => exact Template.tells_of_ofRecord refuses
  | claimant _ _ isNamed =>
      rcases isNamed with rfl | rfl
      · exact .first rfl
      · exact .second rfl
  | colliding => exact .located (List.mem_cons_self ..)
  | invalid => exact Fault.tells_atLocator locator _

section

variable {records : List (String × Record)} {library resolved : Library} {fault : Fault}

/-- Both templates that clash are there, and both claim the name. -/
theorem Clash.claims
    {templates : List Template} {name : String} {first second : Template}
    (clash : Clash templates name first second) :
    second ∈ templates ∧ (second.id = name ∨ name ∈ second.aliases) := by
  cases clash with
  | ids split => exact ⟨by simp [split], Or.inl rfl⟩
  | idAndAlias _ isClaimant declared => exact ⟨isClaimant, Or.inr declared⟩
  | aliases _ isSecond _ _ again => exact ⟨isSecond, Or.inr again⟩
  | ownAliases isTemplate declared => exact ⟨isTemplate, Or.inr (by simp [declared])⟩

theorem responsible_of_build
    (failed : build records = .error fault) :
    ∃ locator record, (locator, record) ∈ records ∧ Responsible locator record fault := by
  rcases build_spec records with ⟨_, library, _, built, _⟩ | ⟨raised, outcome, rejection⟩
  · rw [failed] at built
    cases built
  · rw [failed, Except.error.injEq] at outcome
    subst outcome
    cases rejection with
    | @refused _ _ item _ _ split _ refuses =>
        have member : item ∈ records := by simp [split]
        exact ⟨item.1, item.2, member, .refused refuses⟩
    | @repeatedId _ _ item _ first second split _ next _ _ =>
        have member : item ∈ records := by simp [split]
        have ownLocator : second.locator = item.1 := (Template.ofRecord_eq_ok_iff.mp next).locator
        exact ⟨item.1, item.2, member, .claimant next (Or.inl rfl) (Or.inr ownLocator.symm)⟩
    | @takenAlias templates name first second made clash =>
        obtain ⟨isSecond, claims⟩ := clash.claims
        obtain ⟨locator, record, member, isTemplate⟩ := made.exists_record isSecond
        have ownLocator : second.locator = locator :=
          (Template.ofRecord_eq_ok_iff.mp isTemplate).locator
        exact ⟨locator, record, member, .claimant isTemplate claims (Or.inr ownLocator.symm)⟩

theorem Ascent.stored
    {start last : Template} {passed : List Template}
    (walked : library.Ascent start passed last)
    {id : String}
    (found : library.templates.get? id = some start) :
    ∃ lastId, library.templates.get? lastId = some last := by
  cases walked with
  | here => exact ⟨id, found⟩
  | up _ refers => exact refers.stored

/-- Of the defects only a collision is a matter of one file. -/
theorem responsible_of_defect
    (built : BuiltFrom records library)
    {start : Template}
    (stored : library.templates.get? start.id = some start)
    (defect : library.Defect start fault) :
    (∃ locator record, (locator, record) ∈ records ∧ Responsible locator record fault) ∨
      (∃ template reference, fault = .inheritance (.unknownParent template reference)) ∨
      ∃ chain again, fault = .inheritance (.cycle chain again) := by
  cases defect with
  | unknownParent => exact Or.inr (Or.inl ⟨_, _, rfl⟩)
  | cycle => exact Or.inr (Or.inr ⟨_, _, rfl⟩)
  | @collision _ ancestors child parent cause walked _ _ _ _ collides =>
      obtain ⟨childId, childStored⟩ := walked.stored stored
      obtain ⟨locator, record, member, made⟩ := built.source childId child childStored
      have ownLocator : child.locator = locator := (Template.ofRecord_eq_ok_iff.mp made).locator
      rw [ownLocator]
      exact Or.inl ⟨locator, record, member, .colliding made collides⟩

theorem responsible_of_validate
    (built : BuiltFrom records library)
    (resolution : library.Resolution resolved)
    (failed : resolved.validate = .error fault) :
    ∃ locator record, (locator, record) ∈ records ∧ Responsible locator record fault := by
  rw [validate_eq_forM, forM_eq_error_iff] at failed
  obtain ⟨before, stored, after, split, _, fails⟩ := failed
  obtain ⟨cause, isCause, rfl⟩ := mapError_eq_error_iff.mp fails
  have isValue : stored ∈ resolved.templates.values := by simp [split]
  obtain ⟨⟨id, _⟩, isEntry, rfl⟩ := List.mem_map.mp isValue
  have isStored := Table.mem_entries_iff.mp isEntry
  obtain ⟨own, ancestors, found, _, flattened, _⟩ := resolution.stored id _ isStored
  obtain ⟨locator, record, member, made⟩ := built.source id own found
  have ownLocator : own.locator = locator := (Template.ofRecord_eq_ok_iff.mp made).locator
  rw [flattened.head.locator, ownLocator]
  exact ⟨locator, record, member, .invalid made flattened isCause⟩

theorem load_eq_error_iff :
    load records = .error fault ↔
      build records = .error fault ∨
        ∃ library, build records = .ok library ∧
          (library.resolve = .error fault ∨
            ∃ resolved, library.resolve = .ok resolved ∧ resolved.validate = .error fault) := by
  simp only [load, bind_eq_error_iff]
  constructor
  · rintro (failed | ⟨library, built, failed | ⟨resolved, done, ending⟩⟩)
    · exact Or.inl failed
    · exact Or.inr ⟨library, built, Or.inl failed⟩
    · rcases ending with failed | ⟨_, _, isOk⟩
      · exact Or.inr ⟨library, built, Or.inr ⟨resolved, done, failed⟩⟩
      · cases isOk
  · rintro (failed | ⟨library, built, failed | ⟨resolved, done, failed⟩⟩)
    · exact Or.inl failed
    · exact Or.inr ⟨library, built, Or.inl failed⟩
    · exact Or.inr ⟨library, built, Or.inr ⟨resolved, done, Or.inl failed⟩⟩

/-- A failed load tells the file of a record that is responsible for it, unless
it failed for an unknown parent or a cycle; then it tells no file at all. -/
theorem load_failure_told
    (failed : load records = .error fault) :
    (∃ locator record, (locator, record) ∈ records ∧
        Responsible locator record fault ∧ fault.Tells locator) ∨
      (∀ locator, ¬ fault.Tells locator) ∧
        ((∃ template reference, fault = .inheritance (.unknownParent template reference)) ∨
          ∃ chain again, fault = .inheritance (.cycle chain again)) := by
  have told : (∃ locator record, (locator, record) ∈ records ∧ Responsible locator record fault) →
      ∃ locator record, (locator, record) ∈ records ∧
        Responsible locator record fault ∧ fault.Tells locator := by
    rintro ⟨locator, record, member, responsible⟩
    exact ⟨locator, record, member, responsible, responsible.tells⟩
  rcases load_eq_error_iff.mp failed with
    buildFailed | ⟨library, built, resolveFailed | ⟨resolved, done, validateFailed⟩⟩
  · exact Or.inl (told (responsible_of_build buildFailed))
  · have invariant := build_builtFrom built
    rcases resolve_spec invariant with ⟨_, done, _⟩ | ⟨start, raised, outcome, first, defect⟩
    · rw [resolveFailed] at done
      cases done
    · rw [resolveFailed, Except.error.injEq] at outcome
      subst outcome
      rcases responsible_of_defect invariant first.stored defect with responsible | lost
      · exact Or.inl (told responsible)
      · refine Or.inr ⟨?_, lost⟩
        intro locator
        rcases lost with ⟨template, reference, rfl⟩ | ⟨chain, again, rfl⟩
        · exact Fault.not_tells_inheritance locator _
        · exact Fault.not_tells_inheritance locator _
  · have invariant := build_builtFrom built
    have resolution := resolution_of_resolve invariant done
    exact Or.inl (told (responsible_of_validate invariant resolution validateFailed))

end

/-! ## Examples -/

/-- The cause of an inheritance fault that nothing is wrapped around. -/
def bareInheritance? : Fault → Option InheritanceCause
  | .inheritance cause => some cause
  | _ => none

theorem bareInheritance?_eq_some_iff
    {fault : Fault} {cause : InheritanceCause} :
    bareInheritance? fault = some cause ↔ fault = .inheritance cause := by
  cases fault <;> simp [bareInheritance?]

/-- A sheet in a file of its own that defines the content of its base again. -/
def seasonSheets : List (String × Record) :=
  [("season/sheet.yml", { Record.empty with
      id := some "sheet"
      description := some "Sheet"
      parent := some "latest"
      content := some [(.string "event", .mapping [(.string "type", .string "text")])] }),
    ("base.yml", { Record.empty with
      id := some "base"
      description := some "Base"
      aliases := some ["latest"]
      content := some [(.string "event", .mapping [(.string "type", .string "multiline")])] })]

theorem load_failure_told_seasonSheets :
    ∃ fault locator record,
      load seasonSheets = .error fault ∧
      fault.message = "in 'season/sheet.yml': inheritance error: content ID 'event' cannot be " ++
        "inherited from 'base', because it already exists in 'sheet'" ∧
      (locator, record) ∈ seasonSheets ∧
      Responsible locator record fault ∧
      fault.Tells locator := by
  have raised :
      (faultOf? (load seasonSheets)).map (fun fault => (fault.message, bareInheritance? fault)) =
        some ("in 'season/sheet.yml': inheritance error: content ID 'event' cannot be " ++
          "inherited from 'base', because it already exists in 'sheet'", none) := by
    decide +kernel
  obtain ⟨fault, isFault, shown⟩ := Option.map_eq_some_iff.mp raised
  obtain ⟨message, wrapped⟩ := Prod.mk.inj shown
  have failed : load seasonSheets = .error fault := faultOf?_eq_some_iff.mp isFault
  rcases load_failure_told failed with
    ⟨locator, record, member, responsible, tells⟩ | ⟨_, ⟨_, _, rfl⟩ | ⟨_, _, rfl⟩⟩
  · exact ⟨fault, locator, record, failed, message, member, responsible, tells⟩
  · cases wrapped
  · cases wrapped

/-- A template with a parent that there is not, and two that inherit from each
other. -/
def strayTemplates : List (List (String × Record)) :=
  [[("a.yml", { Record.empty with
      id := some "a", description := some "A", parent := some "nowhere" })],
    [("b.yml", { Record.empty with
      id := some "b", description := some "B", parent := some "c" }),
    ("c.yml", { Record.empty with
      id := some "c", description := some "C", parent := some "b" })]]

/-- These failures tell no file. -/
theorem load_failure_untold :
    ∃ unknown cycle,
      load strayTemplates[0] = .error unknown ∧ (∀ locator, ¬ unknown.Tells locator) ∧
      load strayTemplates[1] = .error cycle ∧ ∀ locator, ¬ cycle.Tells locator := by
  have unknownParent :
      (faultOf? (load strayTemplates[0])).bind bareInheritance? =
        some (.unknownParent "a" "nowhere") := by
    decide +kernel
  have circle :
      (faultOf? (load strayTemplates[1])).bind bareInheritance? =
        some (.cycle ["b", "c"] "b") := by
    decide +kernel
  obtain ⟨unknown, isUnknown, unknownCause⟩ := Option.bind_eq_some_iff.mp unknownParent
  obtain ⟨cycle, isCycle, cycleCause⟩ := Option.bind_eq_some_iff.mp circle
  rw [bareInheritance?_eq_some_iff] at unknownCause cycleCause
  subst unknownCause cycleCause
  exact ⟨_, _, faultOf?_eq_some_iff.mp isUnknown,
    fun locator => Fault.not_tells_inheritance locator _,
    faultOf?_eq_some_iff.mp isCycle,
    fun locator => Fault.not_tells_inheritance locator _⟩

end Library

end Chronicle
