import Chronicle.Content.Entry
import Chronicle.Proofs.Table

/-!
# Nested entries

An entry is reached from another one through the keys of nested content.  In
increasing order of these keys the entries stand as they are met: an entry
before what is nested in it, and nested entries in the order of their blocks.
-/

namespace Chronicle.Content.Entry

/-! ## Entries below an entry -/

/-- The keys that lead down from one entry to another, and the IDs of the
entries on the way, the reached one included.  Two keys lead into the content
of a choice: the branch, and the key in its block. -/
inductive Below : Entry → List String → List String → Entry → Prop
  | here {entry : Entry} : Below entry [] [] entry
  | trigger {heading : Heading} {parameter : Option String} {content : List (String × Entry)}
      {key : String} {child : Entry} {keys ids : List String} {entry : Entry}
      (inContent : (key, child) ∈ content)
      (below : Below child keys ids entry) :
      Below (.trigger heading parameter content) (key :: keys) (child.id :: ids) entry
  | choice {heading : Heading} {parameter : Option String}
      {content : List (String × List (String × Entry))}
      {branch : String} {block : List (String × Entry)}
      {key : String} {child : Entry} {keys ids : List String} {entry : Entry}
      (inContent : (branch, block) ∈ content)
      (inBlock : (key, child) ∈ block)
      (below : Below child keys ids entry) :
      Below (.choice heading parameter content) (branch :: key :: keys) (child.id :: ids) entry

section

variable {motive : Entry → Prop}
  (text : ∀ heading area lettering, motive (.text heading area lettering))
  (multiline : ∀ heading area lettering lines, motive (.multiline heading area lettering lines))
  (rectangle : ∀ heading area color transparency,
    motive (.rectangle heading area color transparency))
  (trigger : ∀ heading parameter content,
    (∀ item ∈ content, motive item.2) → motive (.trigger heading parameter content))
  (choice : ∀ heading parameter content,
    (∀ block ∈ content, ∀ item ∈ block.2, motive item.2) →
      motive (.choice heading parameter content))

include text multiline rectangle trigger choice

set_option linter.unusedSectionVars false in
mutual

/-- What holds of an entry as soon as it holds of all entries directly below it
holds of every entry. -/
theorem induction_on_nested (entry : Entry) : motive entry :=
  match entry with
  | .text heading area lettering => text heading area lettering
  | .multiline heading area lettering lines => multiline heading area lettering lines
  | .rectangle heading area color transparency => rectangle heading area color transparency
  | .trigger heading parameter content =>
      trigger heading parameter content (induction_on_entries content)
  | .choice heading parameter content =>
      choice heading parameter content (induction_on_blocks content)
termination_by structural entry

theorem induction_on_entries (content : List (String × Entry)) :
    ∀ item ∈ content, motive item.2 :=
  match content with
  | [] => fun _ member => nomatch member
  | (_, entry) :: rest =>
      List.forall_mem_cons.mpr ⟨induction_on_nested entry, induction_on_entries rest⟩
termination_by structural content

theorem induction_on_blocks (content : List (String × List (String × Entry))) :
    ∀ block ∈ content, ∀ item ∈ block.2, motive item.2 :=
  match content with
  | [] => fun _ member => nomatch member
  | (_, block) :: rest =>
      List.forall_mem_cons.mpr ⟨induction_on_entries block, induction_on_blocks rest⟩
termination_by structural content

end

end

/-! ## The walk -/

/-- A place below an entry. -/
structure Position where
  keys : List String
  ids : List String
  entry : Entry

namespace Position

/-- The position as seen from the entry around the one that it is below. -/
def under (key id : String) (position : Position) : Position :=
  ⟨key :: position.keys, id :: position.ids, position.entry⟩

/-- The position as seen from outside the block that it is in. -/
def inside (branch : String) (position : Position) : Position :=
  ⟨branch :: position.keys, position.ids, position.entry⟩

/-- The keys are compared one by one, and a position comes before all below
it. -/
def Precedes (position other : Position) : Prop :=
  List.Lex (· < ·) position.keys other.keys

end Position

mutual

/-- All positions below an entry as they are met: the entry, and then in order
what is nested in it. -/
def walk : Entry → List Position
  | .trigger heading parameter content =>
      ⟨[], [], .trigger heading parameter content⟩ :: walkEntries content
  | .choice heading parameter content =>
      ⟨[], [], .choice heading parameter content⟩ :: walkBlocks content
  | .text heading area lettering => [⟨[], [], .text heading area lettering⟩]
  | .multiline heading area lettering lines =>
      [⟨[], [], .multiline heading area lettering lines⟩]
  | .rectangle heading area color transparency =>
      [⟨[], [], .rectangle heading area color transparency⟩]
termination_by structural entry => entry

def walkEntries : List (String × Entry) → List Position
  | [] => []
  | (key, child) :: rest => (walk child).map (Position.under key child.id) ++ walkEntries rest
termination_by structural entries => entries

def walkBlocks : List (String × List (String × Entry)) → List Position
  | [] => []
  | (branch, block) :: rest =>
      (walkEntries block).map (Position.inside branch) ++ walkBlocks rest
termination_by structural blocks => blocks

end

theorem walkEntries_eq_flatMap (entries : List (String × Entry)) :
    walkEntries entries =
      entries.flatMap fun item => (walk item.2).map (Position.under item.1 item.2.id) := by
  induction entries with
  | nil => rfl
  | cons head rest inductionHypothesis =>
      rw [walkEntries, inductionHypothesis, List.flatMap_cons]

theorem walkBlocks_eq_flatMap (blocks : List (String × List (String × Entry))) :
    walkBlocks blocks =
      blocks.flatMap fun block => (walkEntries block.2).map (Position.inside block.1) := by
  induction blocks with
  | nil => rfl
  | cons head rest inductionHypothesis =>
      rw [walkBlocks, inductionHypothesis, List.flatMap_cons]

theorem mem_walkEntries_iff
    {entries : List (String × Entry)} {position : Position} :
    position ∈ walkEntries entries ↔
      ∃ item ∈ entries, ∃ inner ∈ walk item.2, inner.under item.1 item.2.id = position := by
  simp only [walkEntries_eq_flatMap, List.mem_flatMap, List.mem_map]

theorem mem_walkBlocks_iff
    {blocks : List (String × List (String × Entry))} {position : Position} :
    position ∈ walkBlocks blocks ↔
      ∃ block ∈ blocks, ∃ inner ∈ walkEntries block.2, inner.inside block.1 = position := by
  simp only [walkBlocks_eq_flatMap, List.mem_flatMap, List.mem_map]

theorem below_of_mem_walk (entry : Entry) :
    ∀ position ∈ walk entry, Below entry position.keys position.ids position.entry := by
  induction entry using induction_on_nested with
  | text | multiline | rectangle =>
      intro position member
      rw [walk, List.mem_singleton] at member
      subst member
      exact .here
  | trigger heading parameter content inductionHypothesis =>
      intro position member
      rw [walk, List.mem_cons, mem_walkEntries_iff] at member
      rcases member with rfl | ⟨⟨key, child⟩, inContent, inner, isInner, rfl⟩
      · exact .here
      · exact .trigger inContent (inductionHypothesis (key, child) inContent inner isInner)
  | choice heading parameter content inductionHypothesis =>
      intro position member
      rw [walk, List.mem_cons, mem_walkBlocks_iff] at member
      rcases member with rfl | ⟨⟨branch, block⟩, inContent, middle, isMiddle, rfl⟩
      · exact .here
      · obtain ⟨⟨key, child⟩, inBlock, inner, isInner, rfl⟩ := mem_walkEntries_iff.mp isMiddle
        exact .choice inContent inBlock
          (inductionHypothesis (branch, block) inContent (key, child) inBlock inner isInner)

theorem Below.mem_walk
    {entry below : Entry} {keys ids : List String}
    (isBelow : Below entry keys ids below) :
    ⟨keys, ids, below⟩ ∈ walk entry := by
  induction isBelow with
  | @here entry => cases entry <;> exact List.mem_cons_self ..
  | trigger inContent _ inductionHypothesis =>
      rw [walk]
      exact List.mem_cons_of_mem _
        (mem_walkEntries_iff.mpr ⟨_, inContent, _, inductionHypothesis, rfl⟩)
  | choice inContent inBlock _ inductionHypothesis =>
      rw [walk]
      have inEntries := mem_walkEntries_iff.mpr ⟨_, inBlock, _, inductionHypothesis, rfl⟩
      exact List.mem_cons_of_mem _
        (mem_walkBlocks_iff.mpr ⟨_, inContent, _, inEntries, rfl⟩)

/-- The walk meets exactly the entries below. -/
theorem mem_walk_iff
    {entry : Entry} {position : Position} :
    position ∈ walk entry ↔ Below entry position.keys position.ids position.entry :=
  ⟨below_of_mem_walk entry position, Below.mem_walk⟩

/-! ## Order -/

/-- Entries in increasing order of their keys, each under its own ID. -/
structure Indexed (content : List (String × Entry)) : Prop where
  increasing : content.Pairwise fun earlier later => earlier.1 < later.1
  own : ∀ item ∈ content, item.2.id = item.1

/-- All content nested in the entry, however deep, is indexed. -/
inductive Orderly : Entry → Prop
  | text {heading : Heading} {area : Area} {lettering : Lettering} :
      Orderly (.text heading area lettering)
  | multiline {heading : Heading} {area : Area} {lettering : Lettering} {lines : Option Nat} :
      Orderly (.multiline heading area lettering lines)
  | rectangle {heading : Heading} {area : Area} {color : Option String}
      {transparency : Option Decimal.Binary64} :
      Orderly (.rectangle heading area color transparency)
  | trigger {heading : Heading} {parameter : Option String} {content : List (String × Entry)}
      (indexed : Indexed content)
      (nested : ∀ item ∈ content, Orderly item.2) :
      Orderly (.trigger heading parameter content)
  | choice {heading : Heading} {parameter : Option String}
      {content : List (String × List (String × Entry))}
      (increasing : content.Pairwise fun earlier later => earlier.1 < later.1)
      (indexed : ∀ block ∈ content, Indexed block.2)
      (nested : ∀ block ∈ content, ∀ item ∈ block.2, Orderly item.2) :
      Orderly (.choice heading parameter content)

theorem Orderly.of_below
    {entry below : Entry} {keys ids : List String}
    (orderly : entry.Orderly)
    (isBelow : Below entry keys ids below) :
    below.Orderly := by
  induction isBelow with
  | here => exact orderly
  | trigger inContent _ inductionHypothesis =>
      cases orderly with
      | trigger _ nested => exact inductionHypothesis (nested _ inContent)
  | choice inContent inBlock _ inductionHypothesis =>
      cases orderly with
      | choice _ _ nested => exact inductionHypothesis (nested _ inContent _ inBlock)

theorem walkEntries_increasing
    {entries : List (String × Entry)}
    (indexed : Indexed entries)
    (nested : ∀ item ∈ entries, (walk item.2).Pairwise Position.Precedes) :
    (walkEntries entries).Pairwise Position.Precedes := by
  rw [walkEntries_eq_flatMap, List.pairwise_flatMap]
  constructor
  · intro item member
    exact List.pairwise_map.mpr ((nested item member).imp List.Lex.cons)
  · apply indexed.increasing.imp
    intro earlier later less position inEarlier other inLater
    obtain ⟨_, _, rfl⟩ := List.mem_map.mp inEarlier
    obtain ⟨_, _, rfl⟩ := List.mem_map.mp inLater
    exact .rel less

theorem walkBlocks_increasing
    {blocks : List (String × List (String × Entry))}
    (increasing : blocks.Pairwise fun earlier later => earlier.1 < later.1)
    (nested : ∀ block ∈ blocks, (walkEntries block.2).Pairwise Position.Precedes) :
    (walkBlocks blocks).Pairwise Position.Precedes := by
  rw [walkBlocks_eq_flatMap, List.pairwise_flatMap]
  constructor
  · intro block member
    exact List.pairwise_map.mpr ((nested block member).imp List.Lex.cons)
  · apply increasing.imp
    intro earlier later less position inEarlier other inLater
    obtain ⟨_, _, rfl⟩ := List.mem_map.mp inEarlier
    obtain ⟨_, _, rfl⟩ := List.mem_map.mp inLater
    exact .rel less

/-- The walk through an orderly entry meets the positions in increasing
order. -/
theorem Orderly.walk_increasing
    {entry : Entry}
    (orderly : entry.Orderly) :
    (walk entry).Pairwise Position.Precedes := by
  induction orderly with
  | text | multiline | rectangle => exact List.pairwise_singleton ..
  | trigger indexed _ inductionHypothesis =>
      rw [walk, List.pairwise_cons]
      refine ⟨?_, walkEntries_increasing indexed inductionHypothesis⟩
      intro position member
      obtain ⟨_, _, _, _, rfl⟩ := mem_walkEntries_iff.mp member
      exact .nil
  | choice increasing indexed _ inductionHypothesis =>
      rw [walk, List.pairwise_cons]
      refine ⟨?_, walkBlocks_increasing increasing fun block member =>
        walkEntries_increasing (indexed block member) (inductionHypothesis block member)⟩
      intro position member
      obtain ⟨_, _, _, _, rfl⟩ := mem_walkBlocks_iff.mp member
      exact .nil

end Chronicle.Content.Entry
