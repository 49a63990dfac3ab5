import Mathlib.Data.List.Induction
import Chronicle.Proofs.Discovery

/-!
# Locators

The locator of a file is what remains of its path behind the root.  Joined to
the root again, however that is written, it gives back the path.  So a locator
stands for one file, and leads to it.
-/

namespace Chronicle.Discovery

open FileTree (Follows Leads WellNamed)
open Chronicle.Path (IsName ofNames)

/-- The path that a walk from the root along the names comes to. -/
def pathOf (root : Path) (names : List String) : Path :=
  names.foldl (fun path name => path.join ⟨name⟩) root

section

variable {root : Path} {names : List String}

theorem text_pathOf_ne
    (nonempty : root.text ≠ "")
    (areNames : ∀ name ∈ names, IsName name) :
    (pathOf root names).text ≠ "" := by
  induction names generalizing root with
  | nil => exact nonempty
  | cons name further inductionHypothesis =>
      obtain ⟨isName, areFurther⟩ := List.forall_mem_cons.mp areNames
      exact inductionHypothesis (Path.text_join_ne nonempty isName.isAbsolute) areFurther

/-- The walk comes to the path that the names, joined by slashes, have below the
root. -/
theorem pathOf_eq_join
    (nonempty : root.text ≠ "")
    (someName : names ≠ [])
    (areNames : ∀ name ∈ names, IsName name) :
    pathOf root names = root.join (ofNames names) := by
  induction names generalizing root with
  | nil => exact absurd rfl someName
  | cons name further inductionHypothesis =>
      obtain ⟨isName, areFurther⟩ := List.forall_mem_cons.mp areNames
      by_cases isLast : further = []
      · subst isLast
        rw [Path.ofNames_singleton]
        rfl
      · have step : pathOf root (name :: further) = pathOf (root.join ⟨name⟩) further := rfl
        rw [step, inductionHypothesis (Path.text_join_ne nonempty isName.isAbsolute) isLast areFurther,
          Path.join_ofNames_cons nonempty isName isLast areFurther]

/-- A walk from a directory comes to what its names lead to. -/
theorem leads_of_pathOf
    {files : Files} {entries : List (String × FileTree)} {found : FileTree}
    (follows : Follows files)
    (isRoot : files root = .ok (.directory entries))
    (nonempty : root.text ≠ "")
    (areNames : ∀ name ∈ names, IsName name)
    (followed : files (pathOf root names) = .ok found) :
    Leads names (.directory entries) found := by
  -- The last name first, since a path tells the directory before its last name.
  induction names using List.reverseRecOn generalizing found with
  | nil =>
      rw [pathOf, List.foldl_nil, isRoot, Except.ok.injEq] at followed
      exact followed ▸ .here _
  | append_singleton before last inductionHypothesis =>
      obtain ⟨areBefore, isLast⟩ := List.forall_mem_append.mp areNames
      have step : pathOf root (before ++ [last]) = (pathOf root before).join ⟨last⟩ :=
        List.foldl_concat ..
      rw [step] at followed
      obtain ⟨inner, isDirectory, listed⟩ := follows.joined _ _ _
        (text_pathOf_ne nonempty areBefore) (isLast last (List.mem_singleton_self last)) followed
      exact (inductionHypothesis areBefore isDirectory).concat listed

end

/-! ## Files of locators -/

/-- The locator is that of an eligible file with this text, and leads to this
file from the root. -/
structure Locates (files : Files) (settings : Settings) (entries : List (String × FileTree))
    (located text : String) : Prop where
  source : ∃ names, Eligible settings entries names ∧
    Leads names (.directory entries) (.file (some text)) ∧
    located = locator settings.root (pathOf settings.root names)
  leads : files (settings.root.join ⟨located⟩) = .ok (.file (some text))

section

variable {files : Files} {settings : Settings} {entries : List (String × FileTree)}
  {names : List String}
  (follows : Follows files)
  (isRoot : files settings.root = .ok (.directory entries))
  (wellNamed : WellNamed (.directory entries))

include follows isRoot wellNamed

theorem locator_pathOf
    (eligible : Eligible settings entries names) :
    locator settings.root (pathOf settings.root names) = "/".intercalate names := by
  have nonempty := nonempty_of_root follows.empty isRoot
  rw [pathOf_eq_join nonempty eligible.ne_nil (eligible.areNames wellNamed),
    locator_join_ofNames nonempty eligible.ne_nil (eligible.areNames wellNamed)]

/-- The locator of a file, joined to the root, is its path. -/
theorem join_locator
    (eligible : Eligible settings entries names) :
    settings.root.join ⟨locator settings.root (pathOf settings.root names)⟩ =
      pathOf settings.root names := by
  rw [locator_pathOf follows isRoot wellNamed eligible,
    pathOf_eq_join (nonempty_of_root follows.empty isRoot) eligible.ne_nil (eligible.areNames wellNamed),
    ofNames]

theorem eq_of_locator
    {otherNames : List String}
    (eligible : Eligible settings entries names)
    (otherEligible : Eligible settings entries otherNames)
    (same : locator settings.root (pathOf settings.root names) =
      locator settings.root (pathOf settings.root otherNames)) :
    names = otherNames := by
  rw [locator_pathOf follows isRoot wellNamed eligible,
    locator_pathOf follows isRoot wellNamed otherEligible] at same
  exact Path.eq_of_ofNames eligible.ne_nil (eligible.areNames wellNamed) otherEligible.ne_nil
    (otherEligible.areNames wellNamed) (congrArg Path.mk same)

/-- What can be read under a locator is the file that it is the locator of. -/
theorem locates_of_contents
    {text : String}
    (eligible : Eligible settings entries names)
    (isText : contents files settings.root names = .ok text) :
    Locates files settings entries ("/".intercalate names) text := by
  have path := pathOf_eq_join (nonempty_of_root follows.empty isRoot) eligible.ne_nil
    (eligible.areNames wellNamed)
  obtain ⟨found, followed, isRead⟩ := bind_eq_ok_iff.mp isText
  rw [FileTree.read_eq_ok_iff] at isRead
  subst isRead
  refine ⟨⟨names, eligible, ?_, (locator_pathOf follows isRoot wellNamed eligible).symm⟩, followed⟩
  rw [← path] at followed
  exact leads_of_pathOf follows isRoot (nonempty_of_root follows.empty isRoot)
    (eligible.areNames wellNamed) followed

end

end Chronicle.Discovery
