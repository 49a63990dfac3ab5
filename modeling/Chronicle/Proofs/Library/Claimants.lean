import Chronicle.Proofs.Annotated
import Chronicle.Proofs.Content.Descent
import Chronicle.Proofs.Library.Failure
import Chronicle.Proofs.Parameter.Conversion
import Chronicle.Proofs.Parameter.Validity
import Chronicle.Proofs.References

/-!
# Faults of records and of libraries

Only a text has places, so whatever is wrong with a record that was decoded
already, or between records, points into no text.  A fault about two templates
comes from records that both claim its ID.
-/

namespace Chronicle

open Yaml (Value)

namespace Fault

/-! ## Faults without places -/

/-- The root points into no text, and it is not about two templates. -/
structure Inward (fault : Fault) : Prop where
  noOffset : fault.offset? = none
  noTemplates : ∀ id first second, fault.root ≠ .duplicate .template id first second

section

variable {fault : Fault}

theorem inward_bare (cause : LoadCause) : (bare cause).Inward :=
  ⟨rfl, by rintro _ _ _ ⟨⟩⟩

theorem inward_unknownType (subject : Subject) (tag : String) : (unknownType subject tag).Inward :=
  ⟨rfl, by rintro _ _ _ ⟨⟩⟩

theorem inward_inheritance (cause : InheritanceCause) : (inheritance cause).Inward :=
  ⟨rfl, by rintro _ _ _ ⟨⟩⟩

theorem inward_validation (cause : ValidationCause) : (validation cause).Inward :=
  ⟨rfl, by rintro _ _ _ ⟨⟩⟩

theorem inward_notFound (subject : Subject) (id : String) : (notFound subject id).Inward :=
  ⟨rfl, by rintro _ _ _ ⟨⟩⟩

theorem inward_duplicate
    {subject : Subject}
    (noTemplate : subject ≠ .template) (id first second : String) :
    (duplicate subject id first second).Inward :=
  ⟨rfl, by
    rintro _ _ _ ⟨⟩
    exact noTemplate rfl⟩

/-- Contexts change nothing about the root. -/
theorem Inward.context
    (inward : fault.Inward) (text : String) :
    (context text fault).Inward :=
  ⟨inward.noOffset, inward.noTemplates⟩

theorem Inward.wrapped
    (inward : fault.Inward) (texts : List String) :
    (fault.wrapped texts).Inward := by
  constructor
  · rw [offset?_wrapped]
    exact inward.noOffset
  · rw [root_wrapped]
    exact inward.noTemplates

/-- A locator is not a place in a text. -/
theorem Inward.atLocator
    (inward : fault.Inward) (locator : String) :
    (fault.atLocator locator).Inward := by
  cases fault with
  | load cause known offset =>
      cases known with
      | none => exact ⟨inward.noOffset, by rintro _ _ _ ⟨⟩⟩
      | some other => exact inward.context _
  | _ => exact inward.context _

end

end Fault

/-! ## Mappings -/

namespace Record

variable {α : Type} {subject : Subject} {read : String → Value → Except Fault α}
  {before : List (Value × Value)} {pair : Value × Value} {fault : Fault}

theorem KeyOffence.inward
    (noTemplate : subject ≠ .template)
    (offence : KeyOffence subject before pair fault) :
    fault.Inward := by
  cases offence with
  | noId => exact Fault.inward_bare _
  | repeated => exact Fault.inward_duplicate noTemplate ..

/-- A mapping that is refused has a key at fault, or a value. -/
theorem Converts.inward
    {pairs : List (Value × Value)} {outcome : Except Fault (Table α)}
    (converts : Converts subject read pairs outcome)
    (noTemplate : subject ≠ .template)
    (each : ∀ {id value inner}, read id value = .error inner → inner.Inward)
    (failed : outcome = .error fault) :
    fault.Inward := by
  obtain ⟨_, _, _, _, convertible, offence, _⟩ := converts.refused fault failed
  rcases offence.key_or_value convertible with keyOffence | ⟨_, _, _, refused⟩
  · exact keyOffence.inward noTemplate
  · exact each refused

end Record

/-! ## Content and parameters -/

namespace Content

variable {id : String} {value : Value} {fault : Fault}

theorem ContentFault.inward
    {kind : Kind}
    (contentFault : ContentFault kind value fault) :
    fault.Inward := by
  cases contentFault with
  | notMapping => exact Fault.inward_bare _
  | entryKey _ offence => exact offence.inward (by decide)
  | branchKey _ offence => exact offence.inward (by decide)
  | branchNotMapping => exact Fault.inward_bare _
  | branchEntryKey _ _ _ offence => exact (offence.inward (by decide)).context _

theorem EntryFault.inward
    (entryFault : EntryFault id value fault) :
    fault.Inward := by
  cases entryFault with
  | notMapping => exact Fault.inward_bare _
  | kind noKind =>
      rw [kindOf] at noKind
      split at noKind
      · cases noKind
        exact Fault.inward_bare _
      · cases noKind
        exact Fault.inward_bare _
      · split at noKind
        · cases noKind
        · cases noKind
          exact Fault.inward_unknownType ..
  | fields _ noFields =>
      rw [ownEntry] at noFields
      split at noFields
      · cases noFields
      · cases noFields
        exact (Fault.inward_bare _).context _
  | content _ contentFault => exact contentFault.inward.context _

theorem inward_of_decode
    (failed : decode id value = .error fault) :
    fault.Inward := by
  obtain ⟨_, _, _, _, _, _, _, entryFault, rfl⟩ := exists_culprit failed
  exact entryFault.inward.wrapped _

theorem inward_of_decodeMap
    {pairs : List (Value × Value)}
    (failed : decodeMap pairs = .error fault) :
    fault.Inward :=
  (decodeMap_converts pairs).inward (by decide) inward_of_decode failed

end Content

namespace Parameter.Store

theorem inward_of_ofPairs
    {pairs : List (Value × Value)} {fault : Fault}
    (failed : ofPairs pairs = .error fault) :
    fault.Inward := by
  have refused : (ofPairs pairs >>= fun store => .ok store.table) = .error fault := by
    rw [failed]
    rfl
  refine (ofPairs_converts pairs).inward (by decide) ?_ refused
  intro id value inner undecoded
  cases Definition.plain_of_decode (Definition.decodeUnder_eq_error_iff.mp undecoded) with
  | bare => exact Fault.inward_bare _
  | unknownType => exact Fault.inward_unknownType ..
  | context => exact (Fault.inward_bare _).context _

theorem inward_of_validate
    {store : Store} {fault : Fault}
    (failed : store.validate = .error fault) :
    fault.Inward := by
  obtain ⟨_, _, _, _, _, rfl, _⟩ := validate_eq_error_iff.mp failed
  exact (Fault.inward_validation _).context _

end Parameter.Store

/-! ## Templates -/

namespace Template

variable {fault : Fault}

theorem inward_of_ofRecord
    {locator : String} {record : Record}
    (refuses : ofRecord locator record = .error fault) :
    fault.Inward := by
  rw [ofRecord] at refuses
  split at refuses
  · cases refuses
    exact (Fault.inward_bare _).atLocator locator
  · split at refuses
    · cases refuses
      exact (Fault.inward_bare _).atLocator locator
    · simp only [bind_eq_error_iff, mapError_eq_error_iff, within_eq_error_iff] at refuses
      rcases refuses with ⟨_, ⟨_, failed, rfl⟩, rfl⟩ |
        ⟨_, _, ⟨_, ⟨_, failed, rfl⟩, rfl⟩ | ⟨_, _, ⟨_, ⟨_, failed, rfl⟩, rfl⟩ | ⟨_, _, ⟨⟩⟩⟩⟩
      · exact ((Content.inward_of_decodeMap failed).context _).atLocator locator
      · exact ((Content.inward_of_decodeMap failed).context _).atLocator locator
      · exact ((Parameter.Store.inward_of_ofPairs failed).context _).atLocator locator

theorem Collision.inward
    {child parent : Template} {ancestors : List Template}
    (collision : Collision child parent ancestors fault) :
    fault.Inward := by
  cases collision with
  | content => exact Fault.inward_inheritance _
  | parameter => exact (Fault.inward_duplicate (by decide) ..).context _

variable {template : Template}

theorem inward_of_validateOwn
    {entry : Content.Entry}
    (failed : template.validateOwn entry = .error fault) :
    fault.Inward := by
  rw [validateOwn] at failed
  split at failed
  · cases failed
    exact Fault.inward_notFound ..
  · split at failed
    · cases failed
    · rcases bind_eq_error_iff.mp failed with unknown | ⟨definition, _, failed⟩
      · rw [Parameter.Store.require] at unknown
        split at unknown
        · cases unknown
        · cases unknown
          exact Fault.inward_notFound ..
      · split at failed
        · cases failed
          exact Fault.inward_validation _
        · cases failed

theorem inward_of_checkAt
    {position : Content.Entry.Position}
    (failed : template.checkAt position = .error fault) :
    fault.Inward := by
  obtain ⟨cause, own, rfl⟩ := mapError_eq_error_iff.mp failed
  have inward := inward_of_validateOwn own
  rw [inContent]
  induction position.ids with
  | nil => exact inward
  | cons id rest inductionHypothesis => exact inductionHypothesis.context _

theorem inward_of_validate
    (failed : template.validate = .error fault) :
    fault.Inward := by
  rw [validate, within_eq_error_iff] at failed
  obtain ⟨inner, failed, rfl⟩ := failed
  rcases bind_eq_error_iff.mp failed with parameters | ⟨_, _, content⟩
  · exact (Parameter.Store.inward_of_validate parameters).context _
  · obtain ⟨_, item, _, _, _, entryFails⟩ := forM_eq_error_iff.mp content
    obtain ⟨cause, failsInside, rfl⟩ := within_eq_error_iff.mp entryFails
    rw [validateEntry_eq_forM] at failsInside
    obtain ⟨_, position, _, _, _, positionFails⟩ := forM_eq_error_iff.mp failsInside
    exact ((inward_of_checkAt positionFails).context _).context _

end Template

/-! ## Libraries -/

namespace Library

variable {records : List (String × Record)} {fault : Fault}

/-- The template of a record in the file claims the name. -/
def Claims (records : List (String × Record)) (name locator : String) : Prop :=
  ∃ record template, (locator, record) ∈ records ∧
    Template.ofRecord locator record = .ok template ∧
    (template.id = name ∨ name ∈ template.aliases)

theorem claims_of_made
    {templates : List Template} {template : Template} {name : String}
    (made : Made records templates)
    (member : template ∈ templates)
    (claims : template.id = name ∨ name ∈ template.aliases) :
    Claims records name template.locator := by
  obtain ⟨locator, record, isRecord, isTemplate⟩ := made.exists_record member
  have ownLocator : template.locator = locator :=
    (Template.ofRecord_eq_ok_iff.mp isTemplate).locator
  rw [ownLocator]
  exact ⟨record, template, isRecord, isTemplate, claims⟩

/-- Both templates that clash claim the name. -/
theorem Clash.both
    {templates : List Template} {name : String} {first second : Template}
    (clash : Clash templates name first second) :
    (first ∈ templates ∧ (first.id = name ∨ name ∈ first.aliases)) ∧
      second ∈ templates ∧ (second.id = name ∨ name ∈ second.aliases) := by
  refine ⟨?_, clash.claims⟩
  cases clash with
  | ids split earlier same => exact ⟨by simp [split, earlier], Or.inl same⟩
  | idAndAlias isOwner _ _ => exact ⟨isOwner, Or.inl rfl⟩
  | aliases isFirst _ _ declared _ => exact ⟨isFirst, Or.inr declared⟩
  | ownAliases isTemplate declared _ => exact ⟨isTemplate, Or.inr (by simp [declared])⟩

/-- A fault of a library is about one record or about inheritance, or about two
templates that claim the same name. -/
inductive Origin (records : List (String × Record)) : Fault → Prop
  | inward {fault : Fault} (inward : fault.Inward) : Origin records fault
  | claimants {name first second : String}
      (isFirst : Claims records name first)
      (isSecond : Claims records name second) :
      Origin records (.duplicate .template name first second)

theorem origin_of_build
    (failed : build records = .error fault) :
    Origin records fault := by
  rcases build_spec records with ⟨_, library, _, built, _⟩ | ⟨raised, outcome, rejection⟩
  · rw [failed] at built
    cases built
  · rw [failed, Except.error.injEq] at outcome
    subst outcome
    cases rejection with
    | refused _ _ refuses => exact .inward (Template.inward_of_ofRecord refuses)
    | @repeatedId before _ item _ _ second split made next earlier same =>
        have isRecord : (item.1, item.2) ∈ records := by simp [split]
        have ownLocator : second.locator = item.1 := (Template.ofRecord_eq_ok_iff.mp next).locator
        obtain ⟨record, template, member, isTemplate, claims⟩ :=
          claims_of_made made earlier (Or.inl same)
        refine .claimants ⟨record, template, ?_, isTemplate, claims⟩ ?_
        · rw [split]
          exact List.mem_append_left _ member
        · rw [ownLocator]
          exact ⟨item.2, second, isRecord, next, Or.inl rfl⟩
    | takenAlias made clash =>
        obtain ⟨⟨isFirst, firstClaims⟩, isSecond, secondClaims⟩ := clash.both
        exact .claimants (claims_of_made made isFirst firstClaims)
          (claims_of_made made isSecond secondClaims)

theorem origin_of_load
    (failed : load records = .error fault) :
    Origin records fault := by
  rcases load_eq_error_iff.mp failed with
    buildFailed | ⟨library, built, resolveFailed | ⟨resolved, done, validateFailed⟩⟩
  · exact origin_of_build buildFailed
  · rcases resolve_spec (build_builtFrom built) with
      ⟨_, done, _⟩ | ⟨start, raised, outcome, first, defect⟩
    · rw [resolveFailed] at done
      cases done
    · rw [resolveFailed, Except.error.injEq] at outcome
      subst outcome
      cases defect with
      | unknownParent => exact .inward (Fault.inward_inheritance _)
      | cycle => exact .inward (Fault.inward_inheritance _)
      | collision _ _ _ _ _ collides => exact .inward (collides.inward.context _)
  · rw [validate_eq_forM, forM_eq_error_iff] at validateFailed
    obtain ⟨_, stored, _, _, _, fails⟩ := validateFailed
    obtain ⟨cause, isCause, rfl⟩ := mapError_eq_error_iff.mp fails
    exact .inward ((Template.inward_of_validate isCause).atLocator _)

end Library

end Chronicle
