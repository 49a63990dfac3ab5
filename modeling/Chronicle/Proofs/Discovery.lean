import Mathlib.Data.List.Pairwise
import Mathlib.Data.List.Sort
import Chronicle.Discovery
import Chronicle.Proofs.Annotated
import Chronicle.Proofs.FileTree
import Chronicle.Proofs.Outcome
import Chronicle.Proofs.Paired

/-!
# Discovery of template files

Which files below the root are read, and in which order, depends on their names
only.  So it does not matter in which order directories list their entries, or
which other files there are.
-/

namespace Chronicle.Discovery

open FileTree (Leads WellNamed)
open Chronicle.Path (IsName ofNames)

/-! ## Eligible files -/

/-- The name has one of the extensions behind its last dot, but for the case of
ASCII letters, and something before this dot. -/
def HasExtension (extensions : List String) (name : String) : Prop :=
  ∃ stem extension : String, stem ≠ "" ∧ '.' ∉ extension.toList ∧
    name = stem ++ "." ++ extension ∧
    ∃ accepted ∈ extensions,
      extension.toList.map Char.toLower = accepted.toList.map Char.toLower

/-- The names lead to a file with one of the extensions, at any depth or
directly in the directory. -/
structure Eligible (settings : Settings) (entries : List (String × FileTree))
    (names : List String) : Prop where
  leads : ∃ text, Leads names (.directory entries) (.file text)
  depth : settings.recursive = true ∨ names.length = 1
  extension : ∃ name, names.getLast? = some name ∧ HasExtension settings.extensions name

theorem accepts_join_iff
    {settings : Settings} {directory : Path} {name : String}
    (nonempty : directory.text ≠ "")
    (isName : IsName name) :
    settings.accepts (directory.join ⟨name⟩) = true ↔ HasExtension settings.extensions name := by
  have dot : ".".toList = ['.'] := by decide
  rw [Settings.accepts, Path.extension?, Path.fileName?_join nonempty isName, Option.bind_some,
    Option.any_map, Option.any_eq_true]
  constructor
  · rintro ⟨extension, isExtension, matched⟩
    obtain ⟨accepted, isAccepted, same⟩ := List.any_eq_true.mp matched
    obtain ⟨stem, someStem, noDot, split⟩ := Path.extensionOf?_eq_some_iff.mp isExtension
    refine ⟨String.ofList stem, String.ofList extension, ?_, ?_, ?_, accepted, isAccepted, ?_⟩
    · simpa using someStem
    · simpa using noDot
    · apply String.toList_inj.mp
      simp [split, dot]
    · simpa [Settings.sameIgnoringCase] using same
  · rintro ⟨stem, extension, someStem, noDot, rfl, accepted, isAccepted, same⟩
    refine ⟨extension.toList, ?_, ?_⟩
    · apply Path.extensionOf?_eq_some_iff.mpr
      refine ⟨stem.toList, ?_, noDot, ?_⟩
      · simpa using someStem
      · simp [dot]
    · apply List.any_eq_true.mpr
      refine ⟨accepted, isAccepted, ?_⟩
      simpa [Settings.sameIgnoringCase] using same

section

variable {settings : Settings} {entries : List (String × FileTree)} {names : List String}

theorem Eligible.ne_nil
    (eligible : Eligible settings entries names) :
    names ≠ [] := by
  rintro rfl
  obtain ⟨_, isLast, _⟩ := eligible.extension
  cases isLast

theorem Eligible.areNames
    (wellNamed : WellNamed (.directory entries))
    (eligible : Eligible settings entries names) :
    ∀ name ∈ names, IsName name := by
  obtain ⟨_, leads⟩ := eligible.leads
  exact FileTree.isName_of_leads wellNamed leads

theorem eligible_singleton_iff
    {name : String} :
    Eligible settings entries [name] ↔
      (∃ text, (name, .file text) ∈ entries) ∧ HasExtension settings.extensions name := by
  constructor
  · rintro ⟨⟨text, leads⟩, _, _, ⟨⟩, extension⟩
    obtain ⟨_, entry, ⟨⟩, listed, last⟩ := FileTree.leads_cons_iff.mp leads
    exact ⟨⟨text, FileTree.leads_nil_iff.mp last ▸ listed⟩, extension⟩
  · rintro ⟨⟨text, listed⟩, extension⟩
    exact ⟨⟨text, .into listed (.here _)⟩, Or.inr rfl, name, rfl, extension⟩

theorem eligible_cons_iff
    {name : String}
    (notLast : names ≠ []) :
    Eligible settings entries (name :: names) ↔
      settings.recursive = true ∧
        ∃ inner, (name, .directory inner) ∈ entries ∧ Eligible settings inner names := by
  have lasts : (name :: names).getLast? = names.getLast? := List.getLast?_cons_of_ne_nil notLast
  constructor
  · rintro ⟨⟨text, leads⟩, depth, extension⟩
    have deep : settings.recursive = true := by
      rcases depth with deep | single
      · exact deep
      · exact absurd (List.length_eq_zero_iff.mp (Nat.succ.inj single)) notLast
    obtain ⟨_, entry, ⟨⟩, listed, further⟩ := FileTree.leads_cons_iff.mp leads
    rw [lasts] at extension
    cases further with
    | here => exact absurd rfl notLast
    | into inside rest => exact ⟨deep, _, listed, ⟨text, .into inside rest⟩, Or.inl deep, extension⟩
  · rintro ⟨deep, inner, listed, eligible⟩
    obtain ⟨text, leads⟩ := eligible.leads
    exact ⟨⟨text, .into listed leads⟩, Or.inl deep, lasts ▸ eligible.extension⟩

/-- Every eligible file lies in or below one of the entries. -/
theorem eligible_iff_exists :
    Eligible settings entries names ↔ ∃ entry ∈ entries, Eligible settings [entry] names := by
  constructor
  · rintro ⟨⟨text, leads⟩, depth, extension⟩
    cases leads with
    | into listed further =>
        exact ⟨_, listed, ⟨text, .into (List.mem_singleton_self _) further⟩, depth, extension⟩
  · rintro ⟨entry, listed, ⟨text, leads⟩, depth, extension⟩
    cases leads with
    | into single further =>
        have isEntry := List.mem_singleton.mp single
        exact ⟨⟨text, .into (isEntry ▸ listed) further⟩, depth, extension⟩

theorem eligible_iff_of_perm
    {otherEntries : List (String × FileTree)}
    (permuted : entries.Perm otherEntries) :
    Eligible settings otherEntries names ↔ Eligible settings entries names := by
  rw [eligible_iff_exists, eligible_iff_exists]
  simp only [permuted.mem_iff]

theorem Eligible.exists_cons
    {name : String} {entry : FileTree}
    (eligible : Eligible settings [(name, entry)] names) :
    ∃ further, names = name :: further := by
  obtain ⟨_, leads⟩ := eligible.leads
  cases leads with
  | into single _ =>
      cases List.mem_singleton.mp single
      exact ⟨_, rfl⟩

theorem eligible_file_iff
    {name : String} {text : Option String} :
    Eligible settings [(name, .file text)] names ↔
      names = [name] ∧ HasExtension settings.extensions name := by
  constructor
  · intro eligible
    obtain ⟨further, rfl⟩ := eligible.exists_cons
    by_cases isLast : further = []
    · subst isLast
      exact ⟨rfl, (eligible_singleton_iff.mp eligible).2⟩
    · obtain ⟨_, _, isDirectory, _⟩ := (eligible_cons_iff isLast).mp eligible
      cases List.mem_singleton.mp isDirectory
  · rintro ⟨rfl, extension⟩
    exact eligible_singleton_iff.mpr ⟨⟨text, List.mem_singleton_self _⟩, extension⟩

theorem eligible_directory_iff
    {name : String} :
    Eligible settings [(name, .directory entries)] names ↔
      settings.recursive = true ∧
        ∃ further, names = name :: further ∧ Eligible settings entries further := by
  constructor
  · intro eligible
    obtain ⟨further, rfl⟩ := eligible.exists_cons
    by_cases isLast : further = []
    · subst isLast
      obtain ⟨⟨text, isFile⟩, _⟩ := eligible_singleton_iff.mp eligible
      cases List.mem_singleton.mp isFile
    · obtain ⟨deep, inner, isDirectory, inside⟩ := (eligible_cons_iff isLast).mp eligible
      cases List.mem_singleton.mp isDirectory
      exact ⟨deep, further, rfl, inside⟩
  · rintro ⟨deep, further, rfl, inside⟩
    exact (eligible_cons_iff inside.ne_nil).mpr ⟨deep, entries, List.mem_singleton_self _, inside⟩

end

/-! ## Collected files -/

section

variable {settings : Settings} {directory path : Path}

theorem collectEntries_eq_flatMap (directory : Path) (entries : List (String × FileTree)) :
    collectEntries settings directory entries =
      entries.flatMap fun entry => collectEntry settings (directory.join ⟨entry.1⟩) entry.2 := by
  induction entries with
  | nil => rfl
  | cons head rest inductionHypothesis =>
      rw [collectEntries, inductionHypothesis, List.flatMap_cons]

/-- What is collected from one entry are the paths of the eligible files in or
below it. -/
theorem mem_collectEntry_iff
    {name : String} {entry : FileTree}
    (wellNamed : entry.WellNamed)
    (nonempty : directory.text ≠ "")
    (isName : IsName name) :
    path ∈ collectEntry settings (directory.join ⟨name⟩) entry ↔
      ∃ names, Eligible settings [(name, entry)] names ∧ path = directory.join (ofNames names) := by
  induction wellNamed generalizing directory name with
  | file text =>
      have isCollected : path ∈ collectEntry settings (directory.join ⟨name⟩) (.file text) ↔
          settings.accepts (directory.join ⟨name⟩) = true ∧ path = directory.join ⟨name⟩ := by
        rw [collectEntry]
        split <;> simp_all
      rw [isCollected, accepts_join_iff nonempty isName]
      constructor
      · rintro ⟨extension, rfl⟩
        exact ⟨[name], eligible_file_iff.mpr ⟨rfl, extension⟩, by rw [Path.ofNames_singleton]⟩
      · rintro ⟨names, eligible, rfl⟩
        obtain ⟨rfl, extension⟩ := eligible_file_iff.mp eligible
        exact ⟨extension, by rw [Path.ofNames_singleton]⟩
  | @directory inner areNames distinct below inductionHypothesis =>
      have wellNamed : WellNamed (.directory inner) := .directory areNames distinct below
      have joinedNonempty := Path.text_join_ne nonempty isName.isAbsolute
      have isCollected :
          path ∈ collectEntry settings (directory.join ⟨name⟩) (.directory inner) ↔
            settings.recursive = true ∧ ∃ entry ∈ inner,
              path ∈ collectEntry settings ((directory.join ⟨name⟩).join ⟨entry.1⟩) entry.2 := by
        rw [collectEntry, collectEntries_eq_flatMap, ← List.mem_flatMap]
        split <;> simp_all
      rw [isCollected]
      constructor
      · rintro ⟨deep, entry, listed, member⟩
        obtain ⟨further, eligible, rfl⟩ :=
          (inductionHypothesis entry listed joinedNonempty (areNames entry listed)).mp member
        have inside := eligible_iff_exists.mpr ⟨entry, listed, eligible⟩
        exact ⟨name :: further, eligible_directory_iff.mpr ⟨deep, further, rfl, inside⟩,
          Path.join_ofNames_cons nonempty isName inside.ne_nil (inside.areNames wellNamed)⟩
      · rintro ⟨names, eligible, rfl⟩
        obtain ⟨deep, further, rfl, inside⟩ := eligible_directory_iff.mp eligible
        obtain ⟨entry, listed, inEntry⟩ := eligible_iff_exists.mp inside
        refine ⟨deep, entry, listed, ?_⟩
        rw [inductionHypothesis entry listed joinedNonempty (areNames entry listed)]
        exact ⟨further, inEntry,
          (Path.join_ofNames_cons nonempty isName inside.ne_nil (inside.areNames wellNamed)).symm⟩

/-- What is collected are the paths of the eligible files. -/
theorem mem_collectEntries_iff
    {entries : List (String × FileTree)}
    (wellNamed : WellNamed (.directory entries))
    (nonempty : directory.text ≠ "") :
    path ∈ collectEntries settings directory entries ↔
      ∃ names, Eligible settings entries names ∧ path = directory.join (ofNames names) := by
  rw [collectEntries_eq_flatMap, List.mem_flatMap]
  cases wellNamed with
  | directory areNames _ below =>
      constructor
      · rintro ⟨entry, listed, member⟩
        obtain ⟨names, eligible, rfl⟩ :=
          (mem_collectEntry_iff (below entry listed) nonempty (areNames entry listed)).mp member
        exact ⟨names, eligible_iff_exists.mpr ⟨entry, listed, eligible⟩, rfl⟩
      · rintro ⟨names, eligible, rfl⟩
        obtain ⟨entry, listed, inEntry⟩ := eligible_iff_exists.mp eligible
        exact ⟨entry, listed, (mem_collectEntry_iff (below entry listed) nonempty
          (areNames entry listed)).mpr ⟨names, inEntry, rfl⟩⟩

/-- Different entries of a directory have no paths in common. -/
theorem disjoint_collectEntry
    {name otherName : String} {entry otherEntry : FileTree}
    (nonempty : directory.text ≠ "")
    (isName : IsName name) (wellNamed : entry.WellNamed)
    (isOther : IsName otherName) (otherWellNamed : otherEntry.WellNamed)
    (different : name ≠ otherName) :
    (collectEntry settings (directory.join ⟨name⟩) entry).Disjoint
      (collectEntry settings (directory.join ⟨otherName⟩) otherEntry) := by
  have single : WellNamed (.directory [(name, entry)]) :=
    .directory (by simpa using isName) (by simp) (by simpa using wellNamed)
  have otherSingle : WellNamed (.directory [(otherName, otherEntry)]) :=
    .directory (by simpa using isOther) (by simp) (by simpa using otherWellNamed)
  intro path member otherMember
  obtain ⟨names, eligible, rfl⟩ := (mem_collectEntry_iff wellNamed nonempty isName).mp member
  obtain ⟨otherNames, otherEligible, same⟩ :=
    (mem_collectEntry_iff otherWellNamed nonempty isOther).mp otherMember
  -- A path that both had would start with both names behind the directory.
  have sameNames : names = otherNames := by
    rw [← Path.behind_join_ofNames nonempty eligible.ne_nil (eligible.areNames single), same,
      Path.behind_join_ofNames nonempty otherEligible.ne_nil (otherEligible.areNames otherSingle)]
  obtain ⟨further, rfl⟩ := eligible.exists_cons
  obtain ⟨otherFurther, rfl⟩ := otherEligible.exists_cons
  exact different (List.cons.inj sameNames).1

theorem nodup_flatMap_collectEntry
    {entries : List (String × FileTree)}
    (wellNamed : WellNamed (.directory entries))
    (nonempty : directory.text ≠ "")
    (each : ∀ entry ∈ entries,
      (collectEntry settings (directory.join ⟨entry.1⟩) entry.2).Nodup) :
    (entries.flatMap fun entry =>
      collectEntry settings (directory.join ⟨entry.1⟩) entry.2).Nodup := by
  cases wellNamed with
  | directory areNames distinct below =>
      refine List.nodup_flatMap.mpr ⟨each, ?_⟩
      refine List.Pairwise.imp_of_mem ?_ (List.pairwise_map.mp distinct)
      intro entry other listed otherListed different
      exact disjoint_collectEntry nonempty (areNames entry listed) (below entry listed)
        (areNames other otherListed) (below other otherListed) different

theorem nodup_collectEntry
    {entry : FileTree}
    (wellNamed : entry.WellNamed)
    (nonempty : path.text ≠ "") :
    (collectEntry settings path entry).Nodup := by
  induction wellNamed generalizing path with
  | file text =>
      rw [collectEntry]
      split <;> simp
  | @directory inner areNames distinct below inductionHypothesis =>
      rw [collectEntry]
      split
      · rw [collectEntries_eq_flatMap]
        refine nodup_flatMap_collectEntry (.directory areNames distinct below) nonempty ?_
        intro entry listed
        exact inductionHypothesis entry listed
          (Path.text_join_ne nonempty (areNames entry listed).isAbsolute)
      · exact List.nodup_nil

/-- Every file is collected once. -/
theorem nodup_collectEntries
    {entries : List (String × FileTree)}
    (wellNamed : WellNamed (.directory entries))
    (nonempty : directory.text ≠ "") :
    (collectEntries settings directory entries).Nodup := by
  rw [collectEntries_eq_flatMap]
  refine nodup_flatMap_collectEntry wellNamed nonempty ?_
  cases wellNamed with
  | directory areNames _ below =>
      intro entry listed
      exact nodup_collectEntry (below entry listed)
        (Path.text_join_ne nonempty (areNames entry listed).isAbsolute)

end

/-! ## The order of files -/

section

variable {settings : Settings} {entries : List (String × FileTree)}

theorem pairwise_templateFiles :
    (templateFiles settings entries).Pairwise fun left right => (!right.precedes left) = true :=
  List.pairwise_mergeSort Path.not_precedes_trans Path.not_precedes_total _

/-- Collected paths in increasing order are the files in their order. -/
theorem templateFiles_eq_of_perm
    (paths : List Path)
    (collected : (collectEntries settings settings.root entries).Perm paths)
    (increasing : paths.Pairwise fun left right => left.precedes right = true) :
    templateFiles settings entries = paths := by
  have notBehind : ∀ {left right : Path}, left.precedes right = true →
      right.precedes left = false := by
    intro left right before
    simpa [before] using Path.not_precedes_total left right
  have increasing' : paths.Pairwise fun left right => (!right.precedes left) = true :=
    increasing.imp fun before => by rw [notBehind before]; rfl
  refine List.Perm.eq_of_pairwise ?_ pairwise_templateFiles increasing'
    ((List.mergeSort_perm _ _).trans collected)
  intro left right member otherMember leftFirst rightFirst
  have inPaths : left ∈ paths :=
    collected.mem_iff.mp ((List.mergeSort_perm _ _).mem_iff.mp member)
  have symmetric : Std.Symm fun first second : Path =>
      first.precedes second = true ∨ second.precedes first = true := ⟨fun _ _ => Or.symm⟩
  by_cases same : left = right
  · exact same
  · -- In an increasing list one of two different paths precedes the other.
    have eitherWay : paths.Pairwise fun first second =>
        first.precedes second = true ∨ second.precedes first = true := increasing.imp Or.inl
    rcases eitherWay.forall inPaths otherMember same with before | before
    · rw [before] at rightFirst
      cases rightFirst
    · rw [before] at leftFirst
      cases leftFirst

/-- The names that lead to the accepted files, in the order of the files. -/
def considered (settings : Settings) (entries : List (String × FileTree)) : List (List String) :=
  (templateFiles settings entries).map settings.root.behind

variable (wellNamed : WellNamed (.directory entries)) (nonempty : settings.root.text ≠ "")

include wellNamed nonempty

theorem mem_templateFiles_iff
    {path : Path} :
    path ∈ templateFiles settings entries ↔
      ∃ names, Eligible settings entries names ∧ path = settings.root.join (ofNames names) := by
  rw [templateFiles, List.mem_mergeSort, mem_collectEntries_iff wellNamed nonempty]

theorem behind_of_eligible
    {names : List String}
    (eligible : Eligible settings entries names) :
    settings.root.behind (settings.root.join (ofNames names)) = names :=
  Path.behind_join_ofNames nonempty eligible.ne_nil (eligible.areNames wellNamed)

theorem mem_considered_iff
    {names : List String} :
    names ∈ considered settings entries ↔ Eligible settings entries names := by
  rw [considered, List.mem_map]
  constructor
  · rintro ⟨path, member, rfl⟩
    obtain ⟨names, eligible, rfl⟩ := (mem_templateFiles_iff wellNamed nonempty).mp member
    rw [behind_of_eligible wellNamed nonempty eligible]
    exact eligible
  · intro eligible
    exact ⟨_, (mem_templateFiles_iff wellNamed nonempty).mpr ⟨names, eligible, rfl⟩,
      behind_of_eligible wellNamed nonempty eligible⟩

/-- The files are those that the names lead to. -/
theorem map_considered :
    (considered settings entries).map (fun names => settings.root.join (ofNames names)) =
      templateFiles settings entries := by
  rw [considered, List.map_map]
  refine (List.map_congr_left ?_).trans (List.map_id _)
  intro path member
  obtain ⟨names, eligible, rfl⟩ := (mem_templateFiles_iff wellNamed nonempty).mp member
  rw [Function.comp_apply, behind_of_eligible wellNamed nonempty eligible, id_eq]

theorem nodup_templateFiles : (templateFiles settings entries).Nodup :=
  (List.mergeSort_perm _ _).nodup_iff.mpr (nodup_collectEntries wellNamed nonempty)

/-- The names are in strictly increasing order, compared one by one. -/
theorem pairwise_considered :
    (considered settings entries).Pairwise (List.Lex (· < ·)) := by
  rw [considered, List.pairwise_map]
  refine (pairwise_templateFiles.and (nodup_templateFiles wellNamed nonempty)).imp_of_mem ?_
  rintro left right member otherMember ⟨notBehind, different⟩
  obtain ⟨names, eligible, rfl⟩ := (mem_templateFiles_iff wellNamed nonempty).mp member
  obtain ⟨otherNames, otherEligible, rfl⟩ :=
    (mem_templateFiles_iff wellNamed nonempty).mp otherMember
  rw [behind_of_eligible wellNamed nonempty eligible,
    behind_of_eligible wellNamed nonempty otherEligible]
  have areNames := eligible.areNames wellNamed
  have areOther := otherEligible.areNames wellNamed
  rcases Path.precedes_or_eq_of_not_precedes (by simpa using notBehind) with before | same
  · exact (Path.precedes_join_ofNames nonempty eligible.ne_nil areNames otherEligible.ne_nil
      areOther).mp before
  · rw [Path.components_join_ofNames nonempty eligible.ne_nil areNames,
      Path.components_join_ofNames nonempty otherEligible.ne_nil areOther] at same
    rw [List.append_cancel_left same] at different
    exact absurd rfl different

end

/-! ## Records of files -/

/-- The text of the file that the names lead to. -/
def contents (files : Files) (root : Path) (names : List String) : Except FileProblem String :=
  (files (root.join (ofNames names))).bind FileTree.read

/-- The file can be read, and its text states the record.  Its locator is made
of the names. -/
structure Decodes (files : Files) (root : Path) (names : List String) (pair : String × Record) :
    Prop where
  locator : pair.1 = "/".intercalate names
  record : ∃ text, contents files root names = .ok text ∧ Record.ofYaml text = .ok pair.2

/-- The file cannot be read, or its text states no record. -/
inductive FailsWith (files : Files) (root : Path) (names : List String) : Fault → Prop
  | unreadable
      {problem : FileProblem}
      (isProblem : contents files root names = .error problem) :
      FailsWith files root names
        (.unreadable (root.join ⟨"/".intercalate names⟩).text problem.message)
  | undecodable
      {text : String} {cause : LoadCause} {offset : Option Nat}
      (isText : contents files root names = .ok text)
      (fails : Record.ofYaml text = .error (.load cause none offset)) :
      FailsWith files root names (.load cause (some ("/".intercalate names)) offset)

section

variable {files : Files} {root : Path} {names : List String}

theorem locator_join_ofNames
    (nonempty : root.text ≠ "")
    (someName : names ≠ [])
    (areNames : ∀ name ∈ names, IsName name) :
    locator root (root.join (ofNames names)) = "/".intercalate names := by
  rw [locator, Path.behind_join_ofNames nonempty someName areNames]

variable (nonempty : root.text ≠ "") (someName : names ≠ [])
  (areNames : ∀ name ∈ names, IsName name)

include nonempty someName areNames

theorem readRecord_eq_ok_iff
    {pair : String × Record} :
    readRecord files root (root.join (ofNames names)) = .ok pair ↔ Decodes files root names pair := by
  rw [readRecord, locator_join_ofNames nonempty someName areNames]
  simp only [bind_eq_ok_iff, mapError_eq_ok_iff]
  constructor
  · rintro ⟨text, isText, record, decoded, ⟨⟩⟩
    exact ⟨rfl, text, isText, decoded⟩
  · rintro ⟨isLocator, text, isText, decoded⟩
    refine ⟨text, isText, pair.2, decoded, ?_⟩
    rw [← isLocator]
    rfl

theorem readRecord_eq_error_iff
    {fault : Fault} :
    readRecord files root (root.join (ofNames names)) = .error fault ↔
      FailsWith files root names fault := by
  rw [readRecord, locator_join_ofNames nonempty someName areNames]
  simp only [bind_eq_error_iff, mapError_eq_ok_iff, mapError_eq_error_iff]
  constructor
  · rintro (⟨problem, isProblem, rfl⟩ | ⟨text, isText, ⟨raised, fails, rfl⟩ | ⟨_, _, ⟨⟩⟩⟩)
    · exact .unreadable isProblem
    · obtain ⟨cause, offset, rfl⟩ := Fault.unlocated_of_ofYaml fails
      exact .undecodable isText fails
  · rintro (isProblem | ⟨isText, fails⟩)
    · exact Or.inl ⟨_, isProblem, rfl⟩
    · exact Or.inr ⟨_, isText, Or.inl ⟨_, fails, rfl⟩⟩

end

/-! ## Records of all files -/

section

variable {files : Files} {settings : Settings} {entries : List (String × FileTree)}
  (isRoot : files settings.root = .ok (.directory entries))
  (wellNamed : WellNamed (.directory entries)) (nonempty : settings.root.text ≠ "")

include isRoot wellNamed nonempty

theorem records_eq_mapM :
    records files settings = (considered settings entries).mapM fun names =>
      readRecord files settings.root (settings.root.join (ofNames names)) := by
  rw [records, isRoot]
  dsimp only
  rw [← map_considered wellNamed nonempty, List.mapM_map]
  rfl

theorem records_eq_ok_iff
    {pairs : List (String × Record)} :
    records files settings = .ok pairs ↔
      List.Forall₂ (Decodes files settings.root) (considered settings entries) pairs := by
  rw [records_eq_mapM isRoot wellNamed nonempty, mapM_eq_ok_iff]
  have same : ∀ names ∈ considered settings entries, ∀ pair,
      readRecord files settings.root (settings.root.join (ofNames names)) = .ok pair ↔
        Decodes files settings.root names pair := by
    intro names member pair
    have eligible := (mem_considered_iff wellNamed nonempty).mp member
    exact readRecord_eq_ok_iff nonempty eligible.ne_nil (eligible.areNames wellNamed)
  exact ⟨Paired.imp_of_mem fun names member pair => (same names member pair).mp,
    Paired.imp_of_mem fun names member pair => (same names member pair).mpr⟩

theorem records_eq_error_iff
    {fault : Fault} :
    records files settings = .error fault ↔
      ∃ before names after, considered settings entries = before ++ names :: after ∧
        (∀ earlier ∈ before, ∃ pair, Decodes files settings.root earlier pair) ∧
        FailsWith files settings.root names fault := by
  rw [records_eq_mapM isRoot wellNamed nonempty, mapM_eq_error_iff]
  refine exists_congr fun before => exists_congr fun names => exists_congr fun after =>
    and_congr_right fun split => and_congr ?_ ?_
  · refine forall₂_congr fun earlier member => exists_congr fun pair => ?_
    have eligible := (mem_considered_iff wellNamed nonempty).mp
      (split ▸ List.mem_append_left (names :: after) member)
    exact readRecord_eq_ok_iff nonempty eligible.ne_nil (eligible.areNames wellNamed)
  · have eligible := (mem_considered_iff wellNamed nonempty).mp
      (split ▸ List.mem_append_right before List.mem_cons_self)
    exact readRecord_eq_error_iff nonempty eligible.ne_nil (eligible.areNames wellNamed)

end

/-! ## Other listings -/

section

variable {files otherFiles : Files} {settings : Settings}
  {entries otherEntries : List (String × FileTree)}
  (wellNamed : WellNamed (.directory entries)) (nonempty : settings.root.text ≠ "")

include wellNamed nonempty

/-- The order of the files does not depend on the order of the entries. -/
theorem considered_eq
    (otherWellNamed : WellNamed (.directory otherEntries))
    (sameNames : ∀ names,
      Eligible settings otherEntries names ↔ Eligible settings entries names) :
    considered settings otherEntries = considered settings entries := by
  apply (pairwise_considered otherWellNamed nonempty).eq_of_mem_iff
    (pairwise_considered wellNamed nonempty)
  intro names
  rw [mem_considered_iff otherWellNamed nonempty, mem_considered_iff wellNamed nonempty, sameNames]

/-- Files that are not eligible do not matter, and neither does the order in
which directories list their entries. -/
theorem records_eq
    (isRoot : files settings.root = .ok (.directory entries))
    (otherRoot : otherFiles settings.root = .ok (.directory otherEntries))
    (otherWellNamed : WellNamed (.directory otherEntries))
    (sameNames : ∀ names,
      Eligible settings otherEntries names ↔ Eligible settings entries names)
    (sameContents : ∀ names, Eligible settings entries names →
      contents otherFiles settings.root names = contents files settings.root names) :
    records otherFiles settings = records files settings := by
  rw [records_eq_mapM otherRoot otherWellNamed nonempty, records_eq_mapM isRoot wellNamed nonempty,
    considered_eq wellNamed nonempty otherWellNamed sameNames]
  apply mapM_congr
  intro names member
  have eligible := (mem_considered_iff wellNamed nonempty).mp member
  have same : (otherFiles (settings.root.join (ofNames names))).bind FileTree.read =
      (files (settings.root.join (ofNames names))).bind FileTree.read := sameContents names eligible
  rw [readRecord, readRecord, same]

/-- The files directly in the root are those with one name. -/
theorem considered_shallow
    (deep : settings.recursive = true) :
    considered { settings with recursive := false } entries =
      (considered settings entries).filter fun names => names.length == 1 := by
  have shallowNonempty : { settings with recursive := false }.root.text ≠ "" := nonempty
  apply (pairwise_considered wellNamed shallowNonempty).eq_of_mem_iff
    ((pairwise_considered wellNamed nonempty).filter _)
  intro names
  rw [mem_considered_iff wellNamed shallowNonempty, List.mem_filter,
    mem_considered_iff wellNamed nonempty, beq_iff_eq]
  constructor
  · rintro ⟨leads, depth, extension⟩
    have single : names.length = 1 := by simpa using depth
    exact ⟨⟨leads, Or.inl deep, extension⟩, single⟩
  · rintro ⟨⟨leads, _, extension⟩, single⟩
    exact ⟨leads, Or.inr single, extension⟩

/-- The search directly in the root finds the records with a locator of one
part. -/
theorem records_shallow
    (isRoot : files settings.root = .ok (.directory entries))
    (deep : settings.recursive = true)
    {pairs : List (String × Record)}
    (found : records files settings = .ok pairs) :
    records files { settings with recursive := false } =
      .ok (pairs.filter fun pair => (Path.mk pair.1).components.length == 1) := by
  have shallowRoot : files { settings with recursive := false }.root =
      .ok (.directory entries) := isRoot
  rw [records_eq_ok_iff shallowRoot wellNamed nonempty,
    considered_shallow wellNamed nonempty deep]
  apply Paired.filter _ ((records_eq_ok_iff isRoot wellNamed nonempty).mp found)
  intro names member pair decodes
  have eligible := (mem_considered_iff wellNamed nonempty).mp member
  have isLocator : Path.mk pair.1 = ofNames names := by rw [decodes.locator, ofNames]
  rw [isLocator, Path.components_ofNames eligible.ne_nil (eligible.areNames wellNamed)]

end

/-- The empty path leads nowhere, so a root that is there is not empty. -/
theorem nonempty_of_root
    {files : Files} {root : Path} {found : FileTree}
    (noEmpty : ∀ found, files ⟨""⟩ ≠ .ok found)
    (isRoot : files root = .ok found) :
    root.text ≠ "" := by
  intro isEmpty
  have isEmptyPath : root = ⟨""⟩ := by rw [← isEmpty]
  rw [isEmptyPath] at isRoot
  exact noEmpty found isRoot

/-- Discovery considers exactly the files that names lead to, at any depth or
directly in the root, and whose own name has one of the extensions, each of them
once and in the order of their names.  It returns their locators and records in
this order, or the fault of the first file that cannot be read or decoded.
Nothing else has any effect, whatever other files there are and in whatever
order the directories list their entries.  A search that does not go deeper
returns the records whose locator has one part. -/
theorem discovery_exact
    {files : Files} {settings : Settings} {entries : List (String × FileTree)}
    (noEmpty : ∀ found, files ⟨""⟩ ≠ .ok found)
    (isRoot : files settings.root = .ok (.directory entries))
    (wellNamed : WellNamed (.directory entries)) :
    (∃ considered : List (List String),
      (∀ names, names ∈ considered ↔ Eligible settings entries names) ∧
      considered.Pairwise (List.Lex (· < ·)) ∧
      (∀ pairs, records files settings = .ok pairs ↔
        List.Forall₂ (Decodes files settings.root) considered pairs) ∧
      ∀ fault, records files settings = .error fault ↔
        ∃ before names after, considered = before ++ names :: after ∧
          (∀ earlier ∈ before, ∃ pair, Decodes files settings.root earlier pair) ∧
          FailsWith files settings.root names fault) ∧
    (∀ otherFiles otherEntries,
      otherFiles settings.root = .ok (.directory otherEntries) →
      WellNamed (.directory otherEntries) →
      (∀ names, Eligible settings otherEntries names ↔ Eligible settings entries names) →
      (∀ names, Eligible settings entries names →
        contents otherFiles settings.root names = contents files settings.root names) →
      records otherFiles settings = records files settings) ∧
    (settings.recursive = true →
      ∀ pairs, records files settings = .ok pairs →
        records files { settings with recursive := false } =
          .ok (pairs.filter fun pair => (Path.mk pair.1).components.length == 1)) := by
  have nonempty := nonempty_of_root noEmpty isRoot
  refine ⟨⟨considered settings entries, ?_, ?_, ?_, ?_⟩, ?_, ?_⟩
  · exact fun names => mem_considered_iff wellNamed nonempty
  · exact pairwise_considered wellNamed nonempty
  · exact fun pairs => records_eq_ok_iff isRoot wellNamed nonempty
  · exact fun fault => records_eq_error_iff isRoot wellNamed nonempty
  · intro otherFiles otherEntries otherRoot otherWellNamed sameNames sameContents
    exact records_eq wellNamed nonempty isRoot otherRoot otherWellNamed sameNames sameContents
  · exact fun deep pairs found => records_shallow wellNamed nonempty isRoot deep found

/-- A directory whose entries are listed in no particular order.  The order of
texts would put the last file before the first one. -/
def seasonEntries : List (String × FileTree) :=
  [("a", .directory [("s.YML", .file (some "id: s"))]),
    ("notes.txt", .file none),
    ("a-b.yml", .file (some "id: b"))]

def seasonFiles (entries : List (String × FileTree)) : Files :=
  (FileTree.directory [("t", .directory entries)]).files

def seasonSettings : Settings :=
  ⟨⟨"./t/"⟩, true, ["yml"]⟩

theorem discovery_exact_seasons :
    (∀ found, seasonFiles seasonEntries ⟨""⟩ ≠ .ok found) ∧
      seasonFiles seasonEntries seasonSettings.root = .ok (.directory seasonEntries) ∧
      WellNamed (.directory seasonEntries) ∧
      records (seasonFiles seasonEntries.reverse) seasonSettings =
        records (seasonFiles seasonEntries) seasonSettings ∧
      ∃ pairs, records (seasonFiles seasonEntries) seasonSettings = .ok pairs ∧
        pairs.map Prod.fst = ["a/s.YML", "a-b.yml"] ∧
        ∃ shallow,
          records (seasonFiles seasonEntries) { seasonSettings with recursive := false } =
            .ok shallow ∧
          shallow.map Prod.fst = ["a-b.yml"] := by
  have noEmpty : ∀ found, seasonFiles seasonEntries ⟨""⟩ ≠ .ok found :=
    (FileTree.follows_files _).empty
  have isRoot : seasonFiles seasonEntries seasonSettings.root =
      .ok (.directory seasonEntries) :=
    FileTree.files_eq_ok_iff.mpr
      ⟨by decide, by decide, by decide, by decide, rfl⟩
  have otherRoot : seasonFiles seasonEntries.reverse seasonSettings.root =
      .ok (.directory seasonEntries.reverse) :=
    FileTree.files_eq_ok_iff.mpr
      ⟨by decide, by decide, by decide, by decide, rfl⟩
  have wellNamed : WellNamed (.directory seasonEntries) := by
    have inner : WellNamed (.directory [("s.YML", .file (some "id: s"))]) :=
      .directory (by decide) (by decide) (by simpa using .file _)
    refine .directory (by decide) (by decide) ?_
    simp only [seasonEntries, List.forall_mem_cons]
    exact ⟨inner, .file _, .file _, by simp⟩
  have nonempty := nonempty_of_root noEmpty isRoot
  have isConsidered : considered seasonSettings seasonEntries = [["a", "s.YML"], ["a-b.yml"]] := by
    rw [considered, templateFiles_eq_of_perm [⟨"./t/a/s.YML"⟩, ⟨"./t/a-b.yml"⟩]
      (by decide +kernel) (by decide +kernel)]
    decide +kernel
  obtain ⟨_, independent, shallow⟩ := discovery_exact noEmpty isRoot wellNamed
  have permuted : seasonEntries.Perm seasonEntries.reverse := (List.reverse_perm _).symm
  have sameContents : ∀ names, Eligible seasonSettings seasonEntries names →
      contents (seasonFiles seasonEntries.reverse) seasonSettings.root names =
        contents (seasonFiles seasonEntries) seasonSettings.root names := by
    intro names eligible
    have member := (mem_considered_iff wellNamed nonempty).mpr eligible
    rw [isConsidered] at member
    have either : names = ["a", "s.YML"] ∨ names = ["a-b.yml"] := by simpa using member
    rcases either with rfl | rfl
    · decide +kernel
    · decide +kernel
  have locators : (records (seasonFiles seasonEntries) seasonSettings).toOption.map
      (fun pairs => pairs.map Prod.fst) = some ["a/s.YML", "a-b.yml"] := by
    rw [records_eq_mapM isRoot wellNamed nonempty, isConsidered]
    decide +kernel
  refine ⟨noEmpty, isRoot, wellNamed, ?_, ?_⟩
  · exact independent _ _ otherRoot (wellNamed.of_perm permuted)
      (fun names => eligible_iff_of_perm permuted) sameContents
  · cases found : records (seasonFiles seasonEntries) seasonSettings with
    | error fault =>
        rw [found] at locators
        cases locators
    | ok pairs =>
        rw [found] at locators
        have isLocators : pairs.map Prod.fst = ["a/s.YML", "a-b.yml"] := Option.some.inj locators
        refine ⟨pairs, rfl, isLocators, _, shallow rfl pairs found, ?_⟩
        have moved := List.filter_map (f := Prod.fst) (l := pairs)
          (p := fun text => (Path.mk text).components.length == 1)
        rw [isLocators] at moved
        exact moved.symm.trans (by decide +kernel)

end Chronicle.Discovery
