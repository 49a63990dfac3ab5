import Chronicle.Proofs.Inheritance

/-!
# Inheriting in place

Inheriting changes a template step by step: first its parameters, one definition
after the other, and then its content and its presets.  A step that is refused
leaves behind what the steps before it did.  The checks at the start exclude
this: whenever inheriting fails the template is as it was before, and else it
ends as the union of both templates.
-/

namespace Chronicle

namespace Table

universe u

variable {α : Type u}

theorem overwrite_eq_union
    {table other : Table α}
    (apart : ∀ key ∈ table.keys, key ∉ other.keys) :
    table.overwrite other.entries = table.union other := by
  apply eq_of_get?_eq
  intro key
  have written : (table.overwrite other.entries).get? key =
      (other.get? key).or (table.get? key) :=
    get?_overwrite other.entries table key other.keys_nodup
  rw [written, get?_union]
  cases own : table.get? key with
  | none => simp
  | some value =>
      have isKey : key ∈ table.keys := mem_keys_iff.mpr ⟨value, own⟩
      have absent : other.get? key = none :=
        lookup_eq_none_iff.mpr (apart key isKey)
      simp [absent]

theorem get?_supplement
    (entries : List (String × α)) (table : Table α) (key : String) :
    (table.supplement entries).get? key = (table.get? key).or (lookup key entries) := by
  induction entries generalizing table with
  | nil => simp [supplement, lookup]
  | cons head rest inductionHypothesis =>
      rw [supplement, List.foldl_cons, ← supplement, inductionHypothesis, lookup]
      by_cases taken : table.contains head.1 = true
      · rw [if_pos taken]
        by_cases same : head.1 = key
        · subst same
          obtain ⟨value, found⟩ := contains_iff.mp taken
          simp [found]
        · simp [same]
      · rw [if_neg taken, get?_insert]
        have free : table.get? head.1 = none :=
          contains_eq_false_iff.mp (Bool.not_eq_true _ ▸ taken)
        by_cases same : head.1 = key
        · subst same
          simp [free]
        · simp [same]

theorem supplement_eq_union (table other : Table α) :
    table.supplement other.entries = table.union other := by
  apply eq_of_get?_eq
  intro key
  rw [get?_supplement, get?_union]
  rfl

end Table

/-! ## The parameters -/

namespace Parameter.Store

theorem addInPlace_of_ok
    {entries : List (String × Definition)} {store added : Store}
    (done : addEntries entries store = .ok added) :
    addInPlace entries store = (added, .ok ()) := by
  induction entries generalizing store with
  | nil =>
      rw [addEntries, Except.ok.injEq] at done
      rw [addInPlace, done]
  | cons head rest inductionHypothesis =>
      obtain ⟨id, definition⟩ := head
      rw [addEntries, bind_eq_ok_iff] at done
      obtain ⟨grown, isGrown, restDone⟩ := done
      rw [addInPlace, isGrown]
      exact inductionHypothesis restDone

/-- No addition is refused, so the store ends with all definitions. -/
theorem inheritInPlace_of_apart
    {store other : Store}
    (otherKeyed : other.Keyed)
    (apart : store.firstShared other = none) :
    store.inheritInPlace other = (⟨store.table.union other.table⟩, .ok ()) := by
  have merged := inherit_eq_ok otherKeyed apart
  rw [inherit, apart] at merged
  have added : addEntries other.table.entries store = .ok ⟨store.table.union other.table⟩ :=
    mapError_eq_ok_iff.mp merged
  rw [inheritInPlace, apart]
  simp only [addInPlace_of_ok added, mapError_ok]

end Parameter.Store

/-! ## The whole template -/

namespace Template

section

variable {template ancestor merged : Template}

theorem inheritInPlace_of_ok
    (keyed : ancestor.parameters.Keyed)
    (done : template.inherit ancestor = .ok merged) :
    template.inheritInPlace ancestor = (merged, .ok ()) := by
  obtain ⟨contentApart, parametersApart, rfl⟩ := (inherit_eq_ok_iff keyed).mp done
  have noContent := firstSharedContent_eq_none_iff.mpr contentApart
  have noParameter := firstSharedParameter_eq_none_iff.mpr parametersApart
  rw [inheritInPlace, noContent]
  simp only [noParameter, Parameter.Store.inheritInPlace_of_apart keyed noParameter,
    Table.overwrite_eq_union contentApart, Table.supplement_eq_union]
  rfl

/-- Only the checks fail, and nothing is changed before them. -/
theorem inheritInPlace_of_error
    (keyed : ancestor.parameters.Keyed)
    {fault : Fault}
    (failed : template.inherit ancestor = .error fault) :
    template.inheritInPlace ancestor = (template, .error fault) := by
  rw [inheritInPlace]
  cases content : template.firstSharedContent ancestor with
  | some id =>
      rw [inherit_of_sharedContent content, Except.error.injEq] at failed
      simp only [failed]
  | none =>
      cases parameters : template.parameters.firstShared ancestor.parameters with
      | some id =>
          rw [inherit_of_sharedParameter content parameters, Except.error.injEq] at failed
          simp only [failed]
      | none =>
          rw [inherit_of_apart keyed content parameters] at failed
          cases failed

/-- A template that holds exactly what two templates without a common content or
parameter ID hold, and of two presets under one ID the own one. -/
structure United (template ancestor merged : Template) : Prop where
  content : ∀ id entry, merged.content.get? id = some entry ↔
    template.content.get? id = some entry ∨ ancestor.content.get? id = some entry
  parameters : ∀ id definition, merged.parameters.get? id = some definition ↔
    template.parameters.get? id = some definition ∨
      ancestor.parameters.get? id = some definition
  presets : ∀ id, merged.presets.get? id =
    (template.presets.get? id).or (ancestor.presets.get? id)
  head : SameHead merged template

theorem united_layOver
    (contentApart : template.ContentApart ancestor)
    (parametersApart : template.ParametersApart ancestor) :
    United template ancestor (template.layOver ancestor) := by
  refine ⟨?_, ?_, ?_, ⟨rfl, rfl, rfl, rfl, rfl⟩⟩
  · intro id entry
    exact Table.get?_union_eq_some_iff contentApart
  · intro id definition
    exact Table.get?_union_eq_some_iff parametersApart
  · intro id
    exact Table.get?_union template.presets ancestor.presets id

/-- Inheriting succeeds exactly if the templates share no content ID and no
parameter ID, and gives their union.  Else it reports the least shared content
ID, or the least shared parameter ID, and the template stays as it was. -/
theorem inherit_exact
    (template : Template) (reachable : ancestor.Reachable) :
    ((∃ merged, template.inherit ancestor = .ok merged) ↔
        template.ContentApart ancestor ∧ template.ParametersApart ancestor) ∧
      (∀ merged, template.inherit ancestor = .ok merged →
        United template ancestor merged ∧
          template.inheritInPlace ancestor = (merged, .ok ())) ∧
      (∀ fault, template.inherit ancestor = .error fault ↔
        Collision template ancestor [] fault) ∧
      ∀ fault, template.inherit ancestor = .error fault →
        template.inheritInPlace ancestor = (template, .error fault) ∧
          ∀ refusal, fault.root ≠ .refused refusal := by
  have keyed : ancestor.parameters.Keyed := reachable.parameters.keyed
  have ends := @inherit_overAll template ancestor [] (by simpa using keyed)
  rw [overAll] at ends
  refine ⟨⟨?_, ?_⟩, ?_, ?_, ?_⟩
  · rintro ⟨merged, done⟩
    obtain ⟨contentApart, parametersApart, _⟩ := (inherit_eq_ok_iff keyed).mp done
    exact ⟨contentApart, parametersApart⟩
  · rintro ⟨contentApart, parametersApart⟩
    exact ⟨_, (inherit_eq_ok_iff keyed).mpr ⟨contentApart, parametersApart, rfl⟩⟩
  · intro merged done
    refine ⟨?_, inheritInPlace_of_ok keyed done⟩
    obtain ⟨contentApart, parametersApart, rfl⟩ := (inherit_eq_ok_iff keyed).mp done
    exact united_layOver contentApart parametersApart
  · intro fault
    rcases ends with ⟨contentApart, parametersApart, done⟩ | ⟨raised, collision, refused⟩
    · constructor
      · intro failed
        rw [done] at failed
        cases failed
      · intro collision
        exact (collision.not_apart contentApart parametersApart).elim
    · constructor
      · intro failed
        rw [refused, Except.error.injEq] at failed
        exact failed ▸ collision
      · intro other
        rw [refused, collision.unique other]
  · intro fault failed
    refine ⟨inheritInPlace_of_error keyed failed, ?_⟩
    rcases ends with ⟨_, _, done⟩ | ⟨raised, collision, refused⟩
    · rw [done] at failed
      cases failed
    · rw [refused, Except.error.injEq] at failed
      subst failed
      intro refusal
      cases collision <;> exact Fault.noConfusion

end

def textPair (name : String) : Yaml.Value × Yaml.Value :=
  (.string name, .mapping [(.string "type", .string "text")])

/-- A sheet, a base that has other content and parameters but one preset of the
sheet, and a rival that has two of its parameters. -/
def sheetBaseRival : List Record :=
  [{ Record.empty with
      id := some "sheet"
      description := some "Sheet"
      content := some [textPair "notes"]
      presets := some [textPair "bold"]
      parameters := some [textPair "player", textPair "char"] },
    { Record.empty with
      id := some "base"
      description := some "Base"
      content := some [textPair "logo"]
      presets := some [textPair "bold", textPair "wide"]
      parameters := some [textPair "society"] },
    { Record.empty with
      id := some "rival"
      description := some "Rival"
      content := some [textPair "seal"]
      parameters := some [textPair "player", textPair "event", textPair "char"] }]

theorem inherit_exact_sheetBaseRival :
    ∃ sheet base rival merged fault,
      ofRecord "sheet.yml" sheetBaseRival[0] = .ok sheet ∧
      ofRecord "base.yml" sheetBaseRival[1] = .ok base ∧
      ofRecord "rival.yml" sheetBaseRival[2] = .ok rival ∧
      sheet.inherit base = .ok merged ∧
      United sheet base merged ∧
      sheet.inheritInPlace base = (merged, .ok ()) ∧
      sheet.inherit rival = .error fault ∧
      fault.message =
        "inheriting 'rival' into 'sheet': duplicate parameter ID 'char' (sheet and rival)" ∧
      Collision sheet rival [] fault ∧
      sheet.inheritInPlace rival = (sheet, .error fault) := by
  obtain ⟨⟨_, _, _, _⟩, steps⟩ := exists_of_isOk
    (ofRecord "sheet.yml" sheetBaseRival[0] >>= fun sheet =>
      ofRecord "base.yml" sheetBaseRival[1] >>= fun base =>
        ofRecord "rival.yml" sheetBaseRival[2] >>= fun rival =>
          sheet.inherit base >>= fun merged => .ok (sheet, base, rival, merged))
    (by decide +kernel)
  simp only [bind_eq_ok_iff, Except.ok.injEq, Prod.mk.injEq] at steps
  obtain ⟨sheet, isSheet, base, isBase, rival, isRival, merged, done, rfl, rfl, rfl, rfl⟩ := steps
  have raised :
      (faultOf? (ofRecord "sheet.yml" sheetBaseRival[0] >>= fun sheet =>
        ofRecord "rival.yml" sheetBaseRival[2] >>= fun rival => sheet.inherit rival)).map
          Fault.message =
        some "inheriting 'rival' into 'sheet': duplicate parameter ID 'char' (sheet and rival)" := by
    decide +kernel
  simp only [isSheet, isRival, bind, Except.bind] at raised
  obtain ⟨fault, isFault, message⟩ := Option.map_eq_some_iff.mp raised
  have failed : sheet.inherit rival = .error fault := faultOf?_eq_some_iff.mp isFault
  obtain ⟨_, unites, _, _⟩ := inherit_exact sheet (.ofRecord isBase)
  obtain ⟨_, _, reports, keeps⟩ := inherit_exact sheet (.ofRecord isRival)
  obtain ⟨united, inPlace⟩ := unites merged done
  exact ⟨sheet, base, rival, merged, fault, isSheet, isBase, isRival, done, united, inPlace, failed,
    message, (reports fault).mp failed, (keeps fault failed).1⟩

end Template

end Chronicle
