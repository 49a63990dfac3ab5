import Mathlib.Data.List.Nodup
import Chronicle.FileTree
import Chronicle.Proofs.Path
import Chronicle.Proofs.Table

/-!
# Ways through file trees

Names lead from a directory to what lies below it.  In a tree as file systems
have it, with distinct names in each directory, they lead to one thing only.
Writing a file keeps the tree so, and changes only what lies on its way and
behind it.
-/

namespace Chronicle.FileTree

/-- The names lead from the first tree to the second one. -/
inductive Leads : List String → FileTree → FileTree → Prop
  | here (tree : FileTree) : Leads [] tree tree
  | into
      {name : String} {further : List String} {entries : List (String × FileTree)}
      {entry target : FileTree}
      (listed : (name, entry) ∈ entries)
      (leads : Leads further entry target) :
      Leads (name :: further) (directory entries) target

/-- All entries have names, and those of one directory have distinct ones. -/
inductive WellNamed : FileTree → Prop
  | file (text : Option String) : WellNamed (file text)
  | directory
      {entries : List (String × FileTree)}
      (areNames : ∀ entry ∈ entries, Path.IsName entry.1)
      (distinct : (entries.map Prod.fst).Nodup)
      (below : ∀ entry ∈ entries, WellNamed entry.2) :
      WellNamed (directory entries)

/-- The order of the entries does not matter. -/
theorem WellNamed.of_perm
    {entries otherEntries : List (String × FileTree)}
    (permuted : entries.Perm otherEntries)
    (wellNamed : WellNamed (.directory entries)) :
    WellNamed (.directory otherEntries) := by
  cases wellNamed with
  | directory areNames distinct below =>
      refine .directory ?_ ((permuted.map Prod.fst).nodup_iff.mp distinct) ?_
      · exact fun entry listed => areNames entry (permuted.mem_iff.mpr listed)
      · exact fun entry listed => below entry (permuted.mem_iff.mpr listed)

section

variable {tree target : FileTree} {names : List String}

theorem isName_of_leads
    (wellNamed : tree.WellNamed)
    (leads : Leads names tree target) :
    ∀ name ∈ names, Path.IsName name := by
  induction leads with
  | here => simp
  | into listed _ inductionHypothesis =>
      cases wellNamed with
      | directory areNames _ below =>
          exact List.forall_mem_cons.mpr
            ⟨areNames _ listed, inductionHypothesis (below _ listed)⟩

/-- The same names lead to the same thing. -/
theorem Leads.unique
    {other : FileTree}
    (wellNamed : tree.WellNamed)
    (leads : Leads names tree target)
    (leadsToo : Leads names tree other) :
    target = other := by
  induction leads with
  | here =>
      cases leadsToo
      rfl
  | into listed _ inductionHypothesis =>
      cases wellNamed with
      | directory _ distinct below =>
          cases leadsToo with
          | into listedToo further =>
              have same := Table.lookup_of_mem distinct listed
              rw [Table.lookup_of_mem distinct listedToo, Option.some.injEq] at same
              subst same
              exact inductionHypothesis (below _ listed) further

/-- What a directory lists lies one name further. -/
theorem Leads.concat
    {name : String} {entries : List (String × FileTree)} {entry : FileTree}
    (leads : Leads names tree (directory entries))
    (listed : (name, entry) ∈ entries) :
    Leads (names ++ [name]) tree entry := by
  generalize isDirectory : directory entries = last at leads
  induction leads with
  | here =>
      subst isDirectory
      exact .into listed (.here entry)
  | into inside _ inductionHypothesis => exact .into inside (inductionHypothesis isDirectory)

theorem leads_nil_iff : Leads [] tree target ↔ tree = target := by
  constructor
  · rintro ⟨⟩
    rfl
  · rintro rfl
    exact .here tree

theorem leads_cons_iff
    {name : String} :
    Leads (name :: names) tree target ↔
      ∃ entries entry, tree = directory entries ∧ (name, entry) ∈ entries ∧
        Leads names entry target := by
  constructor
  · rintro (_ | ⟨listed, leads⟩)
    exact ⟨_, _, rfl, listed, leads⟩
  · rintro ⟨entries, entry, rfl, listed, leads⟩
    exact .into listed leads

end

/-! ## Paths -/

/-- Paths are followed name by name: what is behind a name that is joined to a
path is listed under this name in the directory that the path leads to. -/
structure Follows (files : Files) : Prop where
  empty : ∀ found, files ⟨""⟩ ≠ .ok found
  joined : ∀ (base : Path) (name : String) (found : FileTree),
    base.text ≠ "" → Path.IsName name → files (base.join ⟨name⟩) = .ok found →
    ∃ entries, files base = .ok (directory entries) ∧ (name, found) ∈ entries

section

variable {here found : FileTree} {above : List FileTree} {parts : List String}

theorem walk_concat
    {name : String}
    (isName : Path.IsName name)
    (followed : walk above here (parts ++ [name]) = .ok found) :
    ∃ entries, walk above here parts = .ok (directory entries) ∧ (name, found) ∈ entries := by
  fun_induction walk above here parts with
  | case1 above here =>
      cases here with
      | file text => cases followed
      | directory entries =>
          simp only [List.nil_append, walk, isName.isFiller, isName.notAbove, Bool.false_eq_true,
            if_false] at followed
          split at followed
          · cases followed
          · split at followed
            · cases followed
            · rename_i next isListed
              cases followed
              exact ⟨entries, rfl, Table.mem_of_lookup isListed⟩
  | case2 => cases followed
  -- Everywhere else both walks take the same step.
  | _ => simp_all [walk, -not_lt, -Nat.not_lt]

theorem walk_filler
    {entries : List (String × FileTree)}
    (followed : walk above here parts = .ok (directory entries)) :
    walk above here (parts ++ [""]) = .ok (directory entries) := by
  fun_induction walk above here parts with
  | case1 above here =>
      cases followed
      simp [walk, Path.isFiller]
  | case2 => cases followed
  | _ => simp_all [walk, -not_lt, -Nat.not_lt]

end

section

variable {tree found : FileTree}

theorem files_eq_ok_iff
    {path : Path} :
    tree.files path = .ok found ↔
      '\x00' ∉ path.text.toList ∧ path.text.utf8ByteSize ≤ pathLimit ∧ path.text ≠ "" ∧
        path.isAbsolute = false ∧ walk [] tree path.parts = .ok found := by
  rw [files]
  by_cases isNull : '\x00' ∈ path.text.toList
  · simp [isNull]
  · by_cases long : pathLimit < path.text.utf8ByteSize
    · simp [isNull, long, Nat.not_le_of_lt long]
    · by_cases isEmpty : path.text = ""
      · simp [isEmpty]
      · cases path.isAbsolute <;> simp [isNull, long, isEmpty, Nat.le_of_not_lt long]

/-- The files of a tree are followed name by name. -/
theorem follows_files (tree : FileTree) : Follows tree.files where
  empty := by
    intro found followed
    exact (files_eq_ok_iff.mp followed).2.2.1 rfl
  joined := by
    intro base name found nonempty isName followed
    obtain ⟨front, isBase, joins⟩ := Path.exists_join_eq nonempty
    rw [joins _ isName.isAbsolute] at followed
    obtain ⟨noNull, short, _, relative, walked⟩ := files_eq_ok_iff.mp followed
    rw [Path.parts_append_slash, Path.parts_of_not_mem isName.noSlash] at walked
    obtain ⟨entries, isDirectory, listed⟩ := walk_concat isName walked
    obtain ⟨back, isText⟩ : ∃ back, front ++ "/" ++ name = base.text ++ back := by
      rcases isBase with rfl | rfl
      · exact ⟨"/" ++ name, String.append_assoc ..⟩
      · exact ⟨name, rfl⟩
    have walkedBase : walk [] tree base.parts = .ok (directory entries) := by
      rcases isBase with rfl | rfl
      · exact isDirectory
      · have withSlash := Path.parts_append_slash front ""
        rw [String.append_empty] at withSlash
        rw [withSlash]
        exact walk_filler isDirectory
    rw [isText] at noNull short relative
    rw [Path.isAbsolute_append nonempty] at relative
    rw [String.toList_append, List.mem_append, not_or] at noNull
    rw [String.utf8ByteSize_append] at short
    have fits : base.text.utf8ByteSize ≤ pathLimit := Nat.le_trans (Nat.le_add_right _ _) short
    exact ⟨entries, files_eq_ok_iff.mpr ⟨noNull.1, fits, nonempty, relative, walkedBase⟩, listed⟩

theorem WellNamed.walk_of_leads
    (wellNamed : tree.WellNamed)
    {names : List String}
    (leads : Leads names tree found)
    (short : ∀ name ∈ names, name.utf8ByteSize ≤ nameLimit)
    (above : List FileTree) :
    walk above tree names = .ok found := by
  induction leads generalizing above with
  | here tree => cases tree <;> rfl
  | @into name further entries entry target listed _ inductionHypothesis =>
      obtain ⟨nameShort, furtherShort⟩ := List.forall_mem_cons.mp short
      cases wellNamed with
      | directory areNames distinct below =>
          have isName : Path.IsName name := areNames _ listed
          simp only [walk, isName.isFiller, isName.notAbove, Bool.false_eq_true, if_false,
            Nat.not_lt.mpr nameShort, Table.lookup_of_mem distinct listed]
          exact inductionHypothesis (below _ listed) furtherShort _

/-- The path of names leads where the names lead, if the limits are kept. -/
theorem WellNamed.files_ofNames
    (wellNamed : tree.WellNamed)
    {names : List String}
    (leads : Leads names tree found)
    (someName : names ≠ [])
    (short : ∀ name ∈ names, name.utf8ByteSize ≤ nameLimit)
    (noNull : '\x00' ∉ (Path.ofNames names).text.toList)
    (fits : (Path.ofNames names).text.utf8ByteSize ≤ pathLimit) :
    tree.files (.ofNames names) = .ok found := by
  have areNames := isName_of_leads wellNamed leads
  have parts := Path.parts_ofNames someName areNames
  have isText : (Path.ofNames names).text ≠ "" := by
    intro isEmpty
    rw [Path.parts, isEmpty] at parts
    exact (areNames "" (parts ▸ List.mem_singleton_self "")).nonempty rfl
  refine files_eq_ok_iff.mpr
    ⟨noNull, fits, isText, Path.isAbsolute_ofNames someName areNames, ?_⟩
  rw [parts]
  exact wellNamed.walk_of_leads leads short []

theorem read_eq_ok_iff
    {text : String} :
    tree.read = .ok text ↔ tree = file (some text) := by
  constructor
  · intro isText
    cases tree with
    | directory entries => cases isText
    | file content =>
        cases content with
        | none => cases isText
        | some other =>
            cases isText
            rfl
  · rintro rfl
    rfl

end

/-! ## Writing -/

section

variable {tree target : FileTree} {names others : List String} {change : FileTree → FileTree}

theorem wellNamed_empty : WellNamed (directory []) :=
  .directory (by simp) List.nodup_nil (by simp)

theorem WellNamed.distinct_listed
    (wellNamed : tree.WellNamed) :
    (tree.listed.map Prod.fst).Nodup := by
  cases wellNamed with
  | file => exact List.nodup_nil
  | directory _ distinct _ => exact distinct

theorem WellNamed.of_listed
    (wellNamed : tree.WellNamed)
    {name : String} {entry : FileTree}
    (isListed : (name, entry) ∈ tree.listed) :
    Path.IsName name ∧ entry.WellNamed := by
  cases wellNamed with
  | file => cases isListed
  | directory areNames _ below => exact ⟨areNames _ isListed, below _ isListed⟩

theorem WellNamed.next
    (wellNamed : tree.WellNamed) (name : String) :
    (tree.next name).WellNamed := by
  rw [FileTree.next]
  cases found : Table.lookup name tree.listed with
  | none => exact wellNamed_empty
  | some entry => exact (wellNamed.of_listed (Table.mem_of_lookup found)).2

theorem WellNamed.alter
    (wellNamed : tree.WellNamed)
    (areNames : ∀ name ∈ names, Path.IsName name)
    (keeps : ∀ here : FileTree, here.WellNamed → (change here).WellNamed) :
    (tree.alter change names).WellNamed := by
  induction names generalizing tree with
  | nil => exact keeps tree wellNamed
  | cons name rest inductionHypothesis =>
      obtain ⟨isName, restAreNames⟩ := List.forall_mem_cons.mp areNames
      have altered := inductionHypothesis (wellNamed.next name) restAreNames
      have distinct := wellNamed.distinct_listed
      have each : ∀ entry ∈ Table.setEntry name ((tree.next name).alter change rest) tree.listed,
          Path.IsName entry.1 ∧ entry.2.WellNamed := by
        rintro ⟨other, entry⟩ member
        rw [Table.mem_setEntry_iff distinct] at member
        split at member
        next same => exact ⟨same ▸ isName, member ▸ altered⟩
        next => exact wellNamed.of_listed member
      exact .directory (fun entry member => (each entry member).1)
        (Table.nodup_keys_setEntry distinct) fun entry member => (each entry member).2

theorem leads_cons_listed_iff
    {name : String} :
    Leads (name :: names) tree target ↔
      ∃ entry, (name, entry) ∈ tree.listed ∧ Leads names entry target := by
  rw [leads_cons_iff]
  constructor
  · rintro ⟨entries, entry, rfl, isListed, leads⟩
    exact ⟨entry, isListed, leads⟩
  · rintro ⟨entry, isListed, leads⟩
    cases tree with
    | file => cases isListed
    | directory entries => exact ⟨entries, entry, rfl, isListed, leads⟩

theorem WellNamed.next_of_listed
    (wellNamed : tree.WellNamed)
    {name : String} {entry : FileTree}
    (isListed : (name, entry) ∈ tree.listed) :
    tree.next name = entry := by
  rw [FileTree.next, Table.lookup_of_mem wellNamed.distinct_listed isListed, Option.getD_some]

/-- An empty directory leads nowhere, so what lies behind a name lies behind the
next thing. -/
theorem WellNamed.leads_next_iff
    (wellNamed : tree.WellNamed)
    {name : String}
    (further : names ≠ []) :
    Leads names (tree.next name) target ↔ Leads (name :: names) tree target := by
  rw [leads_cons_listed_iff]
  constructor
  · intro leads
    rw [FileTree.next] at leads
    cases found : Table.lookup name tree.listed with
    | some entry =>
        rw [found] at leads
        exact ⟨entry, Table.mem_of_lookup found, leads⟩
    | none =>
        rw [found] at leads
        cases leads with
        | here => exact absurd rfl further
        | into isListed _ => cases isListed
  · rintro ⟨entry, isListed, leads⟩
    rw [wellNamed.next_of_listed isListed]
    exact leads

theorem WellNamed.leads_alter_cons_iff
    (wellNamed : tree.WellNamed)
    {name other : String} :
    Leads (other :: others) (tree.alter change (name :: names)) target ↔
      if name = other then Leads others ((tree.next name).alter change names) target
      else Leads (other :: others) tree target := by
  rw [leads_cons_listed_iff, leads_cons_listed_iff, FileTree.alter, listed]
  simp only [Table.mem_setEntry_iff wellNamed.distinct_listed]
  by_cases same : name = other
  · simp [same]
  · simp [same]

/-- The names lead to what the change makes of the thing that they led to
before. -/
theorem WellNamed.exists_leads_alter
    (wellNamed : tree.WellNamed)
    (change : FileTree → FileTree) (names : List String) :
    ∃ here, Leads names (tree.alter change names) (change here) ∧
      ∀ target, Leads names tree target → target = here := by
  induction names generalizing tree with
  | nil => exact ⟨tree, .here _, fun target leads => (leads_nil_iff.mp leads).symm⟩
  | cons name rest inductionHypothesis =>
      obtain ⟨here, leads, only⟩ := inductionHypothesis (wellNamed.next name)
      refine ⟨here, ?_, ?_⟩
      · rw [wellNamed.leads_alter_cons_iff, if_pos rfl]
        exact leads
      · intro target leadsBefore
        obtain ⟨entry, isListed, behind⟩ := leads_cons_listed_iff.mp leadsBefore
        exact only target (wellNamed.next_of_listed isListed ▸ behind)

/-- Changes are seen only on the way to what is changed, and behind it. -/
theorem WellNamed.leads_alter_iff
    (wellNamed : tree.WellNamed)
    (notBefore : ¬others <+: names)
    (notBehind : ¬names <+: others) :
    Leads others (tree.alter change names) target ↔ Leads others tree target := by
  induction names generalizing tree others with
  | nil => exact absurd List.nil_prefix notBehind
  | cons name rest inductionHypothesis =>
      cases others with
      | nil => exact absurd List.nil_prefix notBefore
      | cons other further =>
          rw [wellNamed.leads_alter_cons_iff]
          split
          next same =>
            subst same
            rw [List.cons_prefix_cons, not_and] at notBefore notBehind
            have isFurther : further ≠ [] := by
              rintro rfl
              exact notBefore rfl List.nil_prefix
            rw [inductionHypothesis (wellNamed.next name) (notBefore rfl) (notBehind rfl),
              wellNamed.leads_next_iff isFurther]
          next => exact Iff.rfl

/-- After writing, the names lead to the file, and whatever is neither on the
way to it nor behind it is where it was. -/
theorem WellNamed.write_outcome
    (wellNamed : tree.WellNamed)
    (areNames : ∀ name ∈ names, Path.IsName name)
    (text : Option String) :
    (tree.write text names).WellNamed ∧
      Leads names (tree.write text names) (.file text) ∧
      ∀ others target, ¬others <+: names → ¬names <+: others →
        (Leads others (tree.write text names) target ↔ Leads others tree target) := by
  obtain ⟨_, leads, _⟩ := wellNamed.exists_leads_alter (fun _ => .file text) names
  refine ⟨wellNamed.alter areNames fun _ _ => .file text, leads, ?_⟩
  intro others target notBefore notBehind
  exact wellNamed.leads_alter_iff notBefore notBehind

/-- A file is read as it was written, if its path keeps the limits. -/
theorem WellNamed.read_written
    (wellNamed : tree.WellNamed)
    (someName : names ≠ [])
    (areNames : ∀ name ∈ names, Path.IsName name)
    (short : ∀ name ∈ names, name.utf8ByteSize ≤ nameLimit)
    (noNull : '\x00' ∉ (Path.ofNames names).text.toList)
    (fits : (Path.ofNames names).text.utf8ByteSize ≤ pathLimit)
    (text : String) :
    (tree.write (some text) names).files (.ofNames names) >>= read = .ok text := by
  obtain ⟨stays, leads, _⟩ := wellNamed.write_outcome areNames (some text)
  rw [stays.files_ofNames leads someName short noNull fits]
  rfl

/-- After making directories the names lead somewhere, and if they did so
before, to the same thing. -/
theorem WellNamed.makeDirectories_outcome
    (wellNamed : tree.WellNamed)
    (areNames : ∀ name ∈ names, Path.IsName name) :
    (tree.makeDirectories names).WellNamed ∧
      (∃ here, Leads names (tree.makeDirectories names) here ∧
        ∀ target, Leads names tree target → target = here) ∧
      ∀ others target, ¬others <+: names → ¬names <+: others →
        (Leads others (tree.makeDirectories names) target ↔ Leads others tree target) := by
  refine ⟨wellNamed.alter areNames fun _ => id, wellNamed.exists_leads_alter _ names, ?_⟩
  intro others target notBefore notBehind
  exact wellNamed.leads_alter_iff notBefore notBehind

end

end Chronicle.FileTree
