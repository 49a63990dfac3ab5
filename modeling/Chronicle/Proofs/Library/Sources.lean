import Chronicle.Answer
import Chronicle.Proofs.Library.Claimants
import Chronicle.Proofs.Locator

/-!
# Sources of libraries

A library that is made of files knows each of them by its locator.  The locator
leads back to the file that the record was decoded from, wherever it is told:
with the record, in a fault with a place in a text, and in a fault about two
templates.
-/

namespace Chronicle

open Discovery
open FileTree (Follows Leads WellNamed)

namespace Discovery

section

variable {files : Files} {settings : Settings} {entries : List (String × FileTree)}
  (follows : Follows files)
  (isRoot : files settings.root = .ok (.directory entries))
  (wellNamed : WellNamed (.directory entries))

include follows isRoot wellNamed

/-! ## Sources of records -/

theorem nodup_locators
    {pairs : List (String × Record)}
    (found : records files settings = .ok pairs) :
    (pairs.map Prod.fst).Nodup := by
  have nonempty := nonempty_of_root follows.empty isRoot
  have decoded := (records_eq_ok_iff isRoot wellNamed nonempty).mp found
  have located : List.Forall₂ (fun names located =>
      Eligible settings entries names ∧ located = "/".intercalate names)
      (considered settings entries) (pairs.map Prod.fst) := by
    rw [List.forall₂_map_right_iff]
    refine Paired.imp_of_mem ?_ decoded
    intro names member pair decodes
    exact ⟨(mem_considered_iff wellNamed nonempty).mp member, decodes.locator⟩
  have distinct : (considered settings entries).Pairwise (· ≠ ·) := by
    refine (pairwise_considered wellNamed nonempty).imp ?_
    rintro names _ less rfl
    exact List.lt_irrefl names less
  refine Paired.nodup_right located distinct ?_
  rintro names otherNames _ ⟨eligible, rfl⟩ ⟨otherEligible, same⟩ different
  apply different
  apply eq_of_locator follows isRoot wellNamed eligible otherEligible
  rw [locator_pathOf follows isRoot wellNamed eligible,
    locator_pathOf follows isRoot wellNamed otherEligible, same]

theorem exists_source
    {pairs : List (String × Record)} {located : String} {record : Record}
    (found : records files settings = .ok pairs)
    (member : (located, record) ∈ pairs) :
    ∃ text, Locates files settings entries located text ∧ Record.ofYaml text = .ok record := by
  have nonempty := nonempty_of_root follows.empty isRoot
  have decoded := (records_eq_ok_iff isRoot wellNamed nonempty).mp found
  obtain ⟨names, isConsidered, isLocator, text, isText, isRecord⟩ :=
    Paired.exists_left decoded member
  have eligible := (mem_considered_iff wellNamed nonempty).mp isConsidered
  refine ⟨text, ?_, isRecord⟩
  rw [show located = "/".intercalate names from isLocator]
  exact locates_of_contents follows isRoot wellNamed eligible isText

end

end Discovery

namespace Library

/-! ## Sources of faults -/

section

variable {files : Files} {settings : Settings} {entries : List (String × FileTree)}
  {fault : Fault} {located : String}

/-- The file is read again under its locator, and has the same text. -/
theorem source?_of_locates
    {cause : LoadCause} {text : String} {offset : Nat}
    (root : fault.root = .load cause (some located) (some offset))
    (locates : Locates files settings entries located text) :
    Answer.source? files settings.root fault = some (text, located) := by
  rw [Answer.source?, root]
  dsimp only
  rw [locates.leads]
  rfl

theorem ofFiles_eq_error_iff :
    ofFiles files settings = .error fault ↔
      records files settings = .error fault ∨
        ∃ pairs, records files settings = .ok pairs ∧ load pairs = .error fault := by
  simp only [ofFiles, bind_eq_error_iff]
  constructor
  · rintro (failed | ⟨pairs, found, failed | ⟨_, _, ⟨⟩⟩⟩)
    · exact Or.inl failed
    · exact Or.inr ⟨pairs, found, failed⟩
  · rintro (failed | ⟨pairs, found, failed⟩)
    · exact Or.inl failed
    · exact Or.inr ⟨pairs, found, Or.inl failed⟩

variable (follows : Follows files)
  (isRoot : files settings.root = .ok (.directory entries))
  (wellNamed : WellNamed (.directory entries))

include follows isRoot wellNamed

/-- A place in a text is one in the text of the file that the fault tells. -/
theorem exists_source_of_place
    {cause : LoadCause} {offset : Nat}
    (failed : ofFiles files settings = .error fault)
    (root : fault.root = .load cause (some located) (some offset)) :
    ∃ text, Locates files settings entries located text ∧
      Record.ofYaml text = .error (.load cause none (some offset)) := by
  rcases ofFiles_eq_error_iff.mp failed with unread | ⟨pairs, _, loadFails⟩
  · have nonempty := nonempty_of_root follows.empty isRoot
    obtain ⟨before, names, after, split, _, failsWith⟩ :=
      (records_eq_error_iff isRoot wellNamed nonempty).mp unread
    have eligible := (mem_considered_iff wellNamed nonempty).mp
      (split ▸ List.mem_append_right before List.mem_cons_self)
    cases failsWith with
    | unreadable => cases root
    | @undecodable text _ _ isText fails =>
        cases root
        exact ⟨text, locates_of_contents follows isRoot wellNamed eligible isText, fails⟩
  · cases origin_of_load loadFails with
    | inward inward =>
        have noOffset := inward.noOffset
        rw [← Fault.offset?_root, root] at noOffset
        cases noOffset
    | claimants => cases root

/-- Each location of two templates with the same name is that of a file with a
template that claims it. -/
theorem exists_source_of_duplicate
    {name first second : String}
    (failed : ofFiles files settings = .error fault)
    (root : fault.root = .duplicate .template name first second)
    (isLocation : located = first ∨ located = second) :
    ∃ text record template, Locates files settings entries located text ∧
      Record.ofYaml text = .ok record ∧
      Template.ofRecord located record = .ok template ∧
      (template.id = name ∨ name ∈ template.aliases) := by
  rcases ofFiles_eq_error_iff.mp failed with unread | ⟨pairs, found, loadFails⟩
  · obtain ⟨_, _, _, _, _, failsWith⟩ :=
      (records_eq_error_iff isRoot wellNamed (nonempty_of_root follows.empty isRoot)).mp unread
    cases failsWith with
    | unreadable => cases root
    | undecodable => cases root
  · cases origin_of_load loadFails with
    | inward inward => exact absurd root (inward.noTemplates name first second)
    | claimants isFirst isSecond =>
        cases root
        have claims : Claims pairs name located := by
          rcases isLocation with rfl | rfl
          · exact isFirst
          · exact isSecond
        obtain ⟨record, template, member, isTemplate, isClaim⟩ := claims
        obtain ⟨text, locates, decoded⟩ := exists_source follows isRoot wellNamed found member
        exact ⟨text, record, template, locates, decoded, isTemplate, isClaim⟩

end

/-- Different files have different locators, and a locator that is joined to the
root is the path of its file again, which leads to nothing else.  So the records
of a library have different locators, and each was decoded from the text of the
file that its locator leads to.  The source that is shown with a fault is the
text that could not be decoded, and both locations of a name that is claimed
twice are files with a template that claims it. -/
theorem locators_exact
    {files : Files} {settings : Settings} {entries : List (String × FileTree)}
    (follows : Follows files)
    (isRoot : files settings.root = .ok (.directory entries))
    (wellNamed : WellNamed (.directory entries)) :
    (∀ names otherNames, Eligible settings entries names →
      Eligible settings entries otherNames → names ≠ otherNames →
      locator settings.root (pathOf settings.root names) ≠
        locator settings.root (pathOf settings.root otherNames)) ∧
    (∀ names text, Eligible settings entries names →
      Leads names (.directory entries) (.file text) →
      settings.root.join ⟨locator settings.root (pathOf settings.root names)⟩ =
        pathOf settings.root names ∧
      ∀ found, files (pathOf settings.root names) = .ok found → found = .file text) ∧
    (∀ pairs, records files settings = .ok pairs →
      (pairs.map Prod.fst).Nodup ∧
      ∀ located record, (located, record) ∈ pairs →
        ∃ text, Locates files settings entries located text ∧ Record.ofYaml text = .ok record) ∧
    ∀ fault, ofFiles files settings = .error fault →
      (∀ cause located offset, fault.root = .load cause (some located) (some offset) →
        ∃ text, Locates files settings entries located text ∧
          Record.ofYaml text = .error (.load cause none (some offset)) ∧
          Answer.source? files settings.root fault = some (text, located)) ∧
      ∀ name first second, fault.root = .duplicate .template name first second →
        ∀ located, located = first ∨ located = second →
          ∃ text record template, Locates files settings entries located text ∧
            Record.ofYaml text = .ok record ∧
            Template.ofRecord located record = .ok template ∧
            (template.id = name ∨ name ∈ template.aliases) := by
  have nonempty := nonempty_of_root follows.empty isRoot
  refine ⟨?_, ?_, ?_, ?_⟩
  · intro names otherNames eligible otherEligible different same
    exact different (eq_of_locator follows isRoot wellNamed eligible otherEligible same)
  · intro names text eligible leads
    refine ⟨join_locator follows isRoot wellNamed eligible, ?_⟩
    intro found followed
    have leadsToo := leads_of_pathOf follows isRoot nonempty (eligible.areNames wellNamed) followed
    exact leadsToo.unique wellNamed leads
  · intro pairs found
    refine ⟨nodup_locators follows isRoot wellNamed found, ?_⟩
    exact fun located record member => exists_source follows isRoot wellNamed found member
  · intro fault failed
    constructor
    · intro cause located offset root
      obtain ⟨text, locates, fails⟩ := exists_source_of_place follows isRoot wellNamed failed root
      exact ⟨text, locates, fails, source?_of_locates root locates⟩
    · intro name first second root located isLocation
      exact exists_source_of_duplicate follows isRoot wellNamed failed root isLocation

/-! ## Examples -/

/-- The name and the locations of a fault about two templates. -/
def clash? : Fault → Option (String × String × String)
  | .duplicate .template name first second => some (name, first, second)
  | _ => none

theorem clash?_eq_some_iff
    {fault : Fault} {name first second : String} :
    clash? fault = some (name, first, second) ↔ fault = .duplicate .template name first second := by
  cases fault with
  | duplicate subject => cases subject <;> simp [clash?]
  | _ => simp [clash?]

/-- A season with an alias that is the ID of another sheet. -/
def seasonOverview : List (String × FileTree) :=
  [("season", .directory [("s1.yml", .file (some "id: s1\ndescription: S\naliases: [sheet]"))]),
    ("sheet.yml", .file (some "id: sheet\ndescription: Sheet"))]

def overviewFiles : Files :=
  (FileTree.directory [("t", .directory seasonOverview)]).files

def overviewSettings : Settings :=
  ⟨⟨"t//./"⟩, true, ["yml"]⟩

theorem locators_exact_seasonOverview :
    Follows overviewFiles ∧
      overviewFiles overviewSettings.root = .ok (.directory seasonOverview) ∧
      WellNamed (.directory seasonOverview) ∧
      ∃ fault, ofFiles overviewFiles overviewSettings = .error fault ∧
        fault.message = "duplicate template ID 'sheet' (sheet.yml and season/s1.yml)" ∧
        ∃ text record template,
          Locates overviewFiles overviewSettings seasonOverview "season/s1.yml" text ∧
          Record.ofYaml text = .ok record ∧
          Template.ofRecord "season/s1.yml" record = .ok template ∧
          (template.id = "sheet" ∨ "sheet" ∈ template.aliases) := by
  have follows : Follows overviewFiles := FileTree.follows_files _
  have isRoot : overviewFiles overviewSettings.root = .ok (.directory seasonOverview) :=
    FileTree.files_eq_ok_iff.mpr
      ⟨by decide, by decide, by decide, by decide, rfl⟩
  have wellNamed : WellNamed (.directory seasonOverview) := by
    have inner : WellNamed (.directory
        [("s1.yml", .file (some "id: s1\ndescription: S\naliases: [sheet]"))]) :=
      .directory (by decide) (by decide) (by simpa using .file _)
    refine .directory (by decide) (by decide) ?_
    simp only [seasonOverview, List.forall_mem_cons]
    exact ⟨inner, .file _, by simp⟩
  have nonempty := nonempty_of_root follows.empty isRoot
  have isConsidered : considered overviewSettings seasonOverview =
      [["season", "s1.yml"], ["sheet.yml"]] := by
    rw [considered, templateFiles_eq_of_perm [⟨"t//./season/s1.yml"⟩, ⟨"t//./sheet.yml"⟩]
      (by decide +kernel) (by decide +kernel)]
    decide +kernel
  have raised : (faultOf? (ofFiles overviewFiles overviewSettings)).bind clash? =
      some ("sheet", "sheet.yml", "season/s1.yml") := by
    rw [ofFiles, records_eq_mapM isRoot wellNamed nonempty, isConsidered]
    decide +kernel
  obtain ⟨fault, isFault, isClash⟩ := Option.bind_eq_some_iff.mp raised
  have failed := faultOf?_eq_some_iff.mp isFault
  rw [clash?_eq_some_iff] at isClash
  subst isClash
  obtain ⟨_, _, _, faults⟩ := locators_exact follows isRoot wellNamed
  have isSource := (faults _ failed).2 _ _ _ rfl "season/s1.yml" (Or.inr rfl)
  exact ⟨follows, isRoot, wellNamed, _, failed, by decide +kernel, isSource⟩

end Library

end Chronicle
