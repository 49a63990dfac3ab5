import Mathlib.Data.List.Sort
import Mathlib.Data.String.Basic
import Chronicle.Path

/-!
# Paths of names

A path that is joined to another one has its components behind those of the
other.  Names, which are parts that count and lead nowhere else, are found again
in every path that they are joined to, however the first path is written.
-/

namespace Chronicle.Path

/-! ## Parts -/

theorem splitSlashes_ne_nil (text : List Char) : splitSlashes text ≠ [] := by
  cases text with
  | nil => simp [splitSlashes]
  | cons head rest =>
      rw [splitSlashes]
      split
      · simp
      · split <;> simp

/-- A slash separates the parts before it from those behind it. -/
theorem splitSlashes_append_slash (front back : List Char) :
    splitSlashes (front ++ '/' :: back) = splitSlashes front ++ splitSlashes back := by
  induction front with
  | nil =>
      cases parts : splitSlashes back with
      | nil => exact absurd parts (splitSlashes_ne_nil back)
      | cons part others => simp [splitSlashes, parts]
  | cons head rest inductionHypothesis =>
      rw [List.cons_append, splitSlashes, splitSlashes, inductionHypothesis]
      cases parts : splitSlashes rest with
      | nil => exact absurd parts (splitSlashes_ne_nil rest)
      | cons part others =>
          by_cases isSlash : head = '/'
          · simp [isSlash]
          · simp [isSlash]

theorem splitSlashes_of_not_mem
    {text : List Char}
    (noSlash : '/' ∉ text) :
    splitSlashes text = [text] := by
  induction text with
  | nil => rfl
  | cons head rest inductionHypothesis =>
      obtain ⟨notHead, notRest⟩ := List.ne_and_not_mem_of_not_mem_cons noSlash
      rw [splitSlashes, inductionHypothesis notRest]
      simp [Ne.symm notHead]

theorem parts_ne_nil (path : Path) : path.parts ≠ [] := by
  intro none
  exact splitSlashes_ne_nil path.text.toList (List.map_eq_nil_iff.mp none)

theorem parts_append_slash (front back : String) :
    parts ⟨front ++ "/" ++ back⟩ = parts ⟨front⟩ ++ parts ⟨back⟩ := by
  have slash : "/".toList = ['/'] := by decide
  simp only [parts, String.toList_append, slash, List.append_assoc, List.singleton_append,
    splitSlashes_append_slash, List.map_append]

theorem parts_of_not_mem
    {text : String}
    (noSlash : '/' ∉ text.toList) :
    parts ⟨text⟩ = [text] := by
  simp only [parts, splitSlashes_of_not_mem noSlash, List.map_cons, List.map_nil,
    String.ofList_toList]

/-! ## Names -/

/-- A name counts as a part and leads neither upwards nor further. -/
structure IsName (name : String) : Prop where
  nonempty : name ≠ ""
  notHere : name ≠ "."
  notAbove : name ≠ ".."
  noSlash : '/' ∉ name.toList

instance (name : String) : Decidable (IsName name) :=
  decidable_of_iff (name ≠ "" ∧ name ≠ "." ∧ name ≠ ".." ∧ '/' ∉ name.toList)
    ⟨fun ⟨nonempty, notHere, notAbove, noSlash⟩ => ⟨nonempty, notHere, notAbove, noSlash⟩,
      fun isName => ⟨isName.nonempty, isName.notHere, isName.notAbove, isName.noSlash⟩⟩

/-- The path that names form. -/
def ofNames (names : List String) : Path :=
  ⟨"/".intercalate names⟩

theorem IsName.isFiller
    {name : String}
    (isName : IsName name) :
    Path.isFiller name = false := by
  simp [Path.isFiller, isName.nonempty, isName.notHere]

@[simp]
theorem ofNames_singleton (name : String) : ofNames [name] = ⟨name⟩ := by
  rw [ofNames, String.intercalate_singleton]

theorem ofNames_cons
    {further : List String}
    (notLast : further ≠ []) (name : String) :
    ofNames (name :: further) = ⟨name ++ "/" ++ (ofNames further).text⟩ := by
  rw [ofNames, String.intercalate_cons_of_ne_nil notLast, ofNames]

section

variable {names : List String}

/-- The parts of a path of names are these names. -/
theorem parts_ofNames
    (nonempty : names ≠ [])
    (areNames : ∀ name ∈ names, IsName name) :
    (ofNames names).parts = names := by
  induction names with
  | nil => exact absurd rfl nonempty
  | cons name further inductionHypothesis =>
      obtain ⟨isName, areFurther⟩ := List.forall_mem_cons.mp areNames
      by_cases isLast : further = []
      · subst isLast
        rw [ofNames_singleton, parts_of_not_mem isName.noSlash]
      · rw [ofNames_cons isLast, parts_append_slash, parts_of_not_mem isName.noSlash]
        exact congrArg (name :: ·) (inductionHypothesis isLast areFurther)

/-- Paths of different names are different. -/
theorem eq_of_ofNames
    {otherNames : List String}
    (nonempty : names ≠ []) (areNames : ∀ name ∈ names, IsName name)
    (otherNonempty : otherNames ≠ []) (areOther : ∀ name ∈ otherNames, IsName name)
    (same : ofNames names = ofNames otherNames) :
    names = otherNames := by
  rw [← parts_ofNames nonempty areNames, same, parts_ofNames otherNonempty areOther]

/-- A name starts with a character that is no slash. -/
theorem exists_head_of_isName
    {name : String}
    (isName : IsName name) :
    ∃ first rest, name.toList = first :: rest ∧ first ≠ '/' := by
  cases characters : name.toList with
  | nil => exact absurd (String.toList_inj.mp characters) isName.nonempty
  | cons first rest =>
      refine ⟨first, rest, rfl, ?_⟩
      rintro rfl
      exact isName.noSlash (characters ▸ List.mem_cons_self)

theorem IsName.isAbsolute
    {name : String}
    (isName : IsName name) :
    isAbsolute ⟨name⟩ = false := by
  obtain ⟨first, rest, characters, notSlash⟩ := exists_head_of_isName isName
  simp [Path.isAbsolute, characters, notSlash]

theorem isAbsolute_ofNames
    (nonempty : names ≠ [])
    (areNames : ∀ name ∈ names, IsName name) :
    (ofNames names).isAbsolute = false := by
  cases names with
  | nil => exact absurd rfl nonempty
  | cons name further =>
      obtain ⟨first, rest, characters, notSlash⟩ :=
        exists_head_of_isName (areNames name List.mem_cons_self)
      have starts : (ofNames (name :: further)).text.toList.head? = some first := by
        by_cases isLast : further = []
        · subst isLast
          rw [ofNames_singleton, characters, List.head?_cons]
        · rw [ofNames_cons isLast, String.toList_append, String.toList_append, characters]
          rfl
      simp [isAbsolute, starts, notSlash]

end

/-! ## Joined paths -/

section

variable {base child : Path}

theorem join_behind_slash
    {front : String}
    (relative : child.isAbsolute = false) :
    join ⟨front ++ "/"⟩ child = ⟨front ++ "/" ++ child.text⟩ := by
  have ends : (front ++ "/").toList.getLast? = some '/' := by simp
  simp only [join, relative, ends, beq_self_eq_true, Bool.or_true, Bool.false_eq_true, if_false,
    if_true]

theorem join_of_not_slash
    (nonempty : base.text ≠ "")
    (noSlash : base.text.toList.getLast? ≠ some '/')
    (relative : child.isAbsolute = false) :
    join base child = ⟨base.text ++ "/" ++ child.text⟩ := by
  have notEmpty : base.text.isEmpty = false := by simpa using nonempty
  have notEnds : (base.text.toList.getLast? == some '/') = false := by simpa using noSlash
  simp only [join, relative, notEmpty, notEnds, Bool.or_false, Bool.false_eq_true, if_false]

/-- What is joined to a path always comes behind the same text, which ends with
a slash. -/
theorem exists_join_eq
    (nonempty : base.text ≠ "") :
    ∃ front, (base = ⟨front⟩ ∨ base = ⟨front ++ "/"⟩) ∧
      ∀ child : Path, child.isAbsolute = false → base.join child = ⟨front ++ "/" ++ child.text⟩ := by
  by_cases ends : base.text.toList.getLast? = some '/'
  · obtain ⟨characters, split⟩ := List.getLast?_eq_some_iff.mp ends
    have sameText : base.text = String.ofList characters ++ "/" := by
      apply String.toList_inj.mp
      simp [split]
    have isBase : base = ⟨String.ofList characters ++ "/"⟩ := by rw [← sameText]
    rw [isBase]
    exact ⟨String.ofList characters, Or.inr rfl, fun child relative => join_behind_slash relative⟩
  · exact ⟨base.text, Or.inl rfl, fun child relative => join_of_not_slash nonempty ends relative⟩

/-- Whether a path is absolute shows at its start. -/
theorem isAbsolute_append
    {start : String}
    (nonempty : start ≠ "") (back : String) :
    isAbsolute ⟨start ++ back⟩ = isAbsolute ⟨start⟩ := by
  have characters : start.toList ≠ [] := fun none => nonempty (String.toList_inj.mp none)
  simp only [isAbsolute, String.toList_append, List.head?_append_of_ne_nil _ characters]

theorem text_join_ne
    (nonempty : base.text ≠ "")
    (relative : child.isAbsolute = false) :
    (base.join child).text ≠ "" := by
  obtain ⟨front, _, joins⟩ := exists_join_eq nonempty
  rw [joins child relative]
  simp

/-- A text with one empty part is empty. -/
theorem text_of_parts
    (isEmpty : base.parts = [""]) :
    base.text = "" := by
  rw [parts] at isEmpty
  apply String.toList_inj.mp
  cases characters : base.text.toList with
  | nil => rfl
  | cons head rest =>
      rw [characters, splitSlashes] at isEmpty
      split at isEmpty
      · simp at isEmpty
      · split at isEmpty
        · simp at isEmpty
        · simp at isEmpty

/-- A path that does not start anew has its parts behind those of the base,
whose last part may be empty. -/
theorem parts_join
    (nonempty : base.text ≠ "")
    (relative : child.isAbsolute = false) :
    ∃ front, front ≠ [] ∧ (base.parts = front ∧ front ≠ [""] ∨ base.parts = front ++ [""]) ∧
      (base.join child).parts = front ++ child.parts := by
  obtain ⟨front, isBase, joins⟩ := exists_join_eq nonempty
  rw [joins child relative, parts_append_slash]
  refine ⟨parts ⟨front⟩, parts_ne_nil _, ?_, rfl⟩
  rcases isBase with rfl | rfl
  · exact Or.inl ⟨rfl, fun isEmpty => nonempty (text_of_parts isEmpty)⟩
  · have withSlash := parts_append_slash front ""
    rw [String.append_empty] at withSlash
    exact Or.inr withSlash

/-! ## Components -/

/-- Whether a path has a mark depends on its first part, if it has a second
one. -/
theorem lead_of_parts
    {head : String} {rest : List String}
    (parts : base.parts = head :: rest)
    (notEmpty : head :: rest ≠ [""]) :
    base.lead =
      if head = "" then ("/", rest) else if head = "." then (".", rest) else ("", head :: rest) := by
  rw [lead, parts]
  split
  · rename_i isParts
    cases isParts
    rfl
  · rename_i isParts
    cases isParts
    rfl
  · rename_i notAbsolute notHere
    have isName : head ≠ "" := by
      rintro rfl
      cases rest with
      | nil => exact notEmpty rfl
      | cons next further => exact notAbsolute next further rfl
    have isNotHere : head ≠ "." := by
      rintro rfl
      exact notHere rest rfl
    rw [if_neg isName, if_neg isNotHere]

theorem lead_join
    (nonempty : base.text ≠ "")
    (relative : child.isAbsolute = false) :
    (base.join child).lead.1 = base.lead.1 := by
  obtain ⟨front, notNil, ofBase, joined⟩ := parts_join nonempty relative
  have childParts := parts_ne_nil child
  cases front with
  | nil => exact absurd rfl notNil
  | cons head rest =>
      have joinedLead := lead_of_parts joined (by simp [childParts])
      have baseLead : ∃ body, base.parts = head :: body ∧ head :: body ≠ [""] := by
        rcases ofBase with ⟨parts, notEmpty⟩ | parts
        · exact ⟨rest, parts, notEmpty⟩
        · exact ⟨rest ++ [""], parts, by simp⟩
      obtain ⟨body, parts, notEmpty⟩ := baseLead
      rw [joinedLead, lead_of_parts parts notEmpty]
      split
      · rfl
      · split <;> rfl

/-- The components of a joined path are those of the base and the parts behind
it that count. -/
theorem components_join
    (nonempty : base.text ≠ "")
    (relative : child.isAbsolute = false) :
    (base.join child).components =
      base.components ++ child.parts.filter fun part => !isFiller part := by
  obtain ⟨front, _, ofBase, joined⟩ := parts_join nonempty relative
  have counted : base.parts.filter (fun part => !isFiller part) =
      front.filter fun part => !isFiller part := by
    rcases ofBase with ⟨parts, _⟩ | parts
    · rw [parts]
    · rw [parts, List.filter_append]
      exact List.append_nil _
  rw [components, components, lead_join nonempty relative, joined, List.filter_append, counted,
    List.append_assoc]

end

section

variable {base : Path} {names : List String}

theorem filter_names
    (areNames : ∀ name ∈ names, IsName name) :
    names.filter (fun part => !isFiller part) = names := by
  apply List.filter_eq_self.mpr
  intro name member
  rw [(areNames name member).isFiller]
  rfl

/-- Names alone have no mark before them. -/
theorem components_ofNames
    (someName : names ≠ [])
    (areNames : ∀ name ∈ names, IsName name) :
    (ofNames names).components = names := by
  have parts := parts_ofNames someName areNames
  cases names with
  | nil => exact absurd rfl someName
  | cons name further =>
      have isName := areNames name List.mem_cons_self
      have noMark : (ofNames (name :: further)).lead.1 = "" := by
        rw [lead_of_parts parts (by simp [isName.nonempty]), if_neg isName.nonempty,
          if_neg isName.notHere]
      rw [components, noMark, parts, if_pos rfl, List.nil_append, filter_names areNames]

/-- Names that a path is joined to come behind its components. -/
theorem components_join_ofNames
    (nonempty : base.text ≠ "")
    (someName : names ≠ [])
    (areNames : ∀ name ∈ names, IsName name) :
    (base.join (ofNames names)).components = base.components ++ names := by
  rw [components_join nonempty (isAbsolute_ofNames someName areNames),
    parts_ofNames someName areNames, filter_names areNames]

/-- Seen from the path that they are joined to, they are what is behind it. -/
theorem behind_join_ofNames
    (nonempty : base.text ≠ "")
    (someName : names ≠ [])
    (areNames : ∀ name ∈ names, IsName name) :
    base.behind (base.join (ofNames names)) = names := by
  rw [behind, components_join_ofNames nonempty someName areNames,
    if_pos (List.isPrefixOf_iff_prefix.mpr (List.prefix_append _ _)), List.drop_left]

theorem not_slash_at_end
    {name : String}
    (isName : IsName name) (front : String) :
    (front ++ name).toList.getLast? ≠ some '/' := by
  have characters : name.toList ≠ [] := fun none => isName.nonempty (String.toList_inj.mp none)
  rw [String.toList_append, List.getLast?_append_of_ne_nil _ characters]
  intro ends
  exact isName.noSlash (List.mem_of_getLast? ends)

/-- Names can be joined one after the other. -/
theorem join_ofNames_cons
    {name : String}
    (nonempty : base.text ≠ "")
    (isName : IsName name)
    (someName : names ≠ [])
    (areNames : ∀ name ∈ names, IsName name) :
    (base.join ⟨name⟩).join (ofNames names) = base.join (ofNames (name :: names)) := by
  obtain ⟨front, _, joins⟩ := exists_join_eq nonempty
  have all := isAbsolute_ofNames (List.cons_ne_nil name names)
    (List.forall_mem_cons.mpr ⟨isName, areNames⟩)
  rw [joins _ isName.isAbsolute, joins _ all, join_of_not_slash (by simp) (not_slash_at_end isName _)
    (isAbsolute_ofNames someName areNames), ofNames_cons someName]
  simp only [String.append_assoc]

end

/-! ## Order -/

theorem precedes_iff (first second : Path) :
    first.precedes second = true ↔ List.Lex (· < ·) first.components second.components := by
  simp only [precedes, List.lex_eq_decide_lex, decide_eq_true_eq]

theorem lex_append_iff
    (front : List String) {back otherBack : List String} :
    List.Lex (· < ·) (front ++ back) (front ++ otherBack) ↔ List.Lex (· < ·) back otherBack := by
  induction front with
  | nil => rfl
  | cons head rest inductionHypothesis =>
      rw [← inductionHypothesis]
      constructor
      · intro less
        cases less with
        | rel headLess => exact absurd headLess (String.lt_irrefl head)
        | cons restLess => exact restLess
      · exact List.Lex.cons

/-- Names below one directory are ordered as their paths. -/
theorem precedes_join_ofNames
    {base : Path} {names otherNames : List String}
    (nonempty : base.text ≠ "")
    (someName : names ≠ []) (areNames : ∀ name ∈ names, IsName name)
    (otherName : otherNames ≠ []) (areOther : ∀ name ∈ otherNames, IsName name) :
    (base.join (ofNames names)).precedes (base.join (ofNames otherNames)) = true ↔
      List.Lex (· < ·) names otherNames := by
  rw [precedes_iff, components_join_ofNames nonempty someName areNames,
    components_join_ofNames nonempty otherName areOther, lex_append_iff]

theorem precedes_or_eq_of_not_precedes
    {first second : Path}
    (notBehind : second.precedes first = false) :
    first.precedes second = true ∨ first.components = second.components := by
  by_cases before : first.precedes second = true
  · exact Or.inl before
  · rw [precedes_iff] at before
    have notAfter : ¬ List.Lex (· < ·) second.components first.components := by
      rw [← precedes_iff, notBehind]
      exact Bool.false_ne_true
    exact Or.inr (Std.Trichotomous.trichotomous _ _ before notAfter)

/-- Paths can be sorted: of two paths the first one is not behind the second
one, or the other way round. -/
theorem not_precedes_total (first second : Path) :
    (!second.precedes first || !first.precedes second) = true := by
  by_cases behind : second.precedes first = true
  · have notBefore : ¬ first.precedes second = true := by
      rw [precedes_iff] at behind ⊢
      exact List.lt_asymm behind
    simp [notBefore]
  · simp [behind]

theorem not_precedes_trans
    (first second third : Path)
    (notBehind : (!second.precedes first) = true)
    (nextNotBehind : (!third.precedes second) = true) :
    (!third.precedes first) = true := by
  rw [Bool.not_eq_true'] at notBehind nextNotBehind ⊢
  rw [← Bool.not_eq_true]
  intro behind
  rw [precedes_iff] at behind
  rcases precedes_or_eq_of_not_precedes notBehind with before | same
  · have nextBehind : third.precedes second = true := by
      rw [precedes_iff] at before ⊢
      exact List.lt_trans behind before
    exact absurd nextBehind (by simp [nextNotBehind])
  · rw [same, ← precedes_iff, nextNotBehind] at behind
    cases behind

/-! ## Extensions -/

section

variable {name extension : List Char}

theorem extensionOf?_of_not_mem
    (noDot : '.' ∉ name) :
    extensionOf? name = none := by
  have passes : ∀ character ∈ name.reverse, (character != '.') = true := by
    intro character member
    simpa using fun isDot : character = '.' => noDot (isDot ▸ List.mem_reverse.mp member)
  have dropsAll : name.reverse.dropWhile (fun character => character != '.') = [] := by
    rw [← List.append_nil name.reverse, List.dropWhile_append_of_pos passes, List.dropWhile_nil]
  rw [extensionOf?, dropsAll]

/-- What follows the last dot is the extension if something comes before this
dot. -/
theorem extensionOf?_append
    (stem : List Char)
    (noDot : '.' ∉ extension) :
    extensionOf? (stem ++ '.' :: extension) = if stem = [] then none else some extension := by
  have passes : ∀ character ∈ extension.reverse, (character != '.') = true := by
    intro character member
    simpa using fun isDot : character = '.' => noDot (isDot ▸ List.mem_reverse.mp member)
  have backwards : (stem ++ '.' :: extension).reverse =
      extension.reverse ++ '.' :: stem.reverse := by simp
  rw [extensionOf?, backwards, List.dropWhile_append_of_pos passes,
    List.takeWhile_append_of_pos passes, List.dropWhile_cons_of_neg (by simp),
    List.takeWhile_cons_of_neg (by simp), List.append_nil, List.reverse_reverse]
  by_cases isEmpty : stem = []
  · simp [isEmpty]
  · have isEmptyNot : stem.reverse ≠ [] := fun none => isEmpty (List.reverse_eq_nil_iff.mp none)
    rw [if_neg isEmpty]
    cases backwardsStem : stem.reverse with
    | nil => exact absurd backwardsStem isEmptyNot
    | cons last before => rfl

/-- The extension of a name is what follows its last dot, and something comes
before this dot. -/
theorem extensionOf?_eq_some_iff :
    extensionOf? name = some extension ↔
      ∃ stem, stem ≠ [] ∧ '.' ∉ extension ∧ name = stem ++ '.' :: extension := by
  constructor
  · intro isExtension
    by_cases dotted : '.' ∈ name.reverse
    · obtain ⟨after, before, backwards, noDot⟩ := List.eq_append_cons_of_mem dotted
      have split : name = before.reverse ++ '.' :: after.reverse := by
        rw [← List.reverse_reverse name, backwards]
        simp
      have noDotBehind : '.' ∉ after.reverse := fun member => noDot (List.mem_reverse.mp member)
      rw [split, extensionOf?_append _ noDotBehind] at isExtension
      split at isExtension
      · cases isExtension
      · rename_i someStem
        cases isExtension
        exact ⟨before.reverse, someStem, noDotBehind, split⟩
    · rw [extensionOf?_of_not_mem fun member => dotted (List.mem_reverse.mpr member)] at isExtension
      cases isExtension
  · rintro ⟨stem, someStem, noDot, rfl⟩
    rw [extensionOf?_append stem noDot, if_neg someStem]

end

/-- The last name of a path is the one that was joined last. -/
theorem fileName?_join
    {directory : Path} {name : String}
    (nonempty : directory.text ≠ "")
    (isName : IsName name) :
    (directory.join ⟨name⟩).fileName? = some name := by
  obtain ⟨front, notNil, _, joined⟩ := parts_join nonempty isName.isAbsolute
  rw [parts_of_not_mem isName.noSlash] at joined
  obtain ⟨body, isBody⟩ : ∃ body, (directory.join ⟨name⟩).lead.2 = body ++ [name] := by
    cases front with
    | nil => exact absurd rfl notNil
    | cons head rest =>
        rw [lead_of_parts joined (by simp)]
        split
        · exact ⟨rest, rfl⟩
        · split
          · exact ⟨rest, rfl⟩
          · exact ⟨head :: rest, rfl⟩
  rw [fileName?, isBody, List.reverse_append, List.reverse_singleton, List.singleton_append,
    List.dropWhile_cons_of_neg (by simp [isName.isFiller])]
  exact if_neg isName.notAbove

end Chronicle.Path
