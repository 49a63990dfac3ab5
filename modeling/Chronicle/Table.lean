/-!
# Tables

A table holds values under distinct text keys, in key order.  Two tables are
equal as soon as they give the same answer for every key, so the order of
insertions never shows.
-/

namespace Chronicle

universe u v

/-- Pairs in strictly increasing order of their keys, code point by code
point. -/
structure Table (α : Type u) where
  entries : List (String × α)
  ordered : entries.Pairwise fun earlier later => earlier.1 < later.1

namespace Table

variable {α : Type u} {β : Type v}

/-! ## Insertion into an ordered list -/

/-- Puts the pair at its place; a pair with the same key is replaced. -/
def insertEntry (key : String) (value : α) : List (String × α) → List (String × α)
  | [] => [(key, value)]
  | entry :: rest =>
      if key < entry.1 then (key, value) :: entry :: rest
      else if key = entry.1 then (key, value) :: rest
      else entry :: insertEntry key value rest

theorem mem_insertEntry
    {key : String} {value : α} {entries : List (String × α)} {entry : String × α}
    (member : entry ∈ insertEntry key value entries) :
    entry = (key, value) ∨ entry ∈ entries := by
  induction entries with
  | nil => simpa [insertEntry] using member
  | cons head rest inductionHypothesis =>
      rw [insertEntry] at member
      split at member
      · simpa using member
      · split at member
        · rcases List.mem_cons.mp member with isNew | inRest
          · exact Or.inl isNew
          · exact Or.inr (List.mem_cons_of_mem head inRest)
        · rcases List.mem_cons.mp member with isHead | inRest
          · exact Or.inr (isHead ▸ List.mem_cons_self ..)
          · rcases inductionHypothesis inRest with isNew | old
            · exact Or.inl isNew
            · exact Or.inr (List.mem_cons_of_mem head old)

theorem lt_of_not_lt_of_ne
    {left right : String}
    (notLess : ¬ left < right)
    (different : left ≠ right) :
    right < left := by
  have rightLe : right ≤ left := notLess
  by_cases less : right < left
  · exact less
  · exact absurd (String.le_antisymm less rightLe) different

theorem insertEntry_ordered
    {key : String} {value : α} {entries : List (String × α)}
    (ordered : entries.Pairwise fun earlier later => earlier.1 < later.1) :
    (insertEntry key value entries).Pairwise fun earlier later => earlier.1 < later.1 := by
  induction entries with
  | nil => simp [insertEntry]
  | cons head rest inductionHypothesis =>
      obtain ⟨headLess, restOrdered⟩ := List.pairwise_cons.mp ordered
      rw [insertEntry]
      split
      · rename_i keyLess
        refine List.pairwise_cons.mpr ⟨?_, ordered⟩
        intro entry member
        rcases List.mem_cons.mp member with isHead | inRest
        · exact isHead ▸ keyLess
        · exact String.lt_trans keyLess (headLess entry inRest)
      · rename_i notLess
        split
        · rename_i same
          refine List.pairwise_cons.mpr ⟨?_, restOrdered⟩
          intro entry member
          exact same ▸ headLess entry member
        · rename_i different
          refine List.pairwise_cons.mpr ⟨?_, inductionHypothesis restOrdered⟩
          intro entry member
          rcases mem_insertEntry member with isNew | old
          · exact isNew ▸ lt_of_not_lt_of_ne notLess different
          · exact headLess entry old

/-! ## Pairs in any order -/

/-- The value of the first pair with the key. -/
def lookup (key : String) : List (String × α) → Option α
  | [] => none
  | entry :: rest => if entry.1 = key then some entry.2 else lookup key rest

/-- Replaces the value under the key, or adds the pair at the end. -/
def setEntry (key : String) (value : α) : List (String × α) → List (String × α)
  | [] => [(key, value)]
  | entry :: rest =>
      if entry.1 = key then (key, value) :: rest else entry :: setEntry key value rest

theorem keys_setEntry (key : String) (value : α) (entries : List (String × α)) :
    (setEntry key value entries).map Prod.fst =
      if key ∈ entries.map Prod.fst then entries.map Prod.fst
      else entries.map Prod.fst ++ [key] := by
  induction entries with
  | nil => simp [setEntry]
  | cons head rest inductionHypothesis =>
      rw [setEntry]
      by_cases same : head.1 = key
      · simp [same]
      · have different : ¬ key = head.1 := fun equality => same equality.symm
        simp only [same, if_false, List.map_cons, inductionHypothesis, List.mem_cons, different,
          false_or]
        split <;> simp

theorem nodup_keys_setEntry
    {key : String} {value : α} {entries : List (String × α)}
    (distinct : (entries.map Prod.fst).Nodup) :
    ((setEntry key value entries).map Prod.fst).Nodup := by
  rw [keys_setEntry]
  split
  · exact distinct
  · rename_i absent
    rw [List.nodup_append]
    refine ⟨distinct, by simp, ?_⟩
    intro earlier member last isLast equality
    rw [List.mem_singleton] at isLast
    exact absent (isLast ▸ equality ▸ member)

/-! ## Operations -/

def empty : Table α :=
  ⟨[], List.Pairwise.nil⟩

instance : Inhabited (Table α) := ⟨empty⟩

def insert (table : Table α) (key : String) (value : α) : Table α :=
  ⟨insertEntry key value table.entries, insertEntry_ordered table.ordered⟩

def get? (table : Table α) (key : String) : Option α :=
  lookup key table.entries

def contains (table : Table α) (key : String) : Bool :=
  (table.get? key).isSome

/-- The keys, in increasing order. -/
def keys (table : Table α) : List String :=
  table.entries.map Prod.fst

def values (table : Table α) : List α :=
  table.entries.map Prod.snd

def size (table : Table α) : Nat :=
  table.entries.length

def isEmpty (table : Table α) : Bool :=
  table.entries.isEmpty

/-- The same keys with other values. -/
def mapValues (transform : α → β) (table : Table α) : Table β :=
  ⟨table.entries.map fun entry => (entry.1, transform entry.2), by
    simpa [List.pairwise_map] using table.ordered⟩

/-- Writes every pair, over what stood under its key. -/
def overwrite (table : Table α) (entries : List (String × α)) : Table α :=
  entries.foldl (fun merged entry => merged.insert entry.1 entry.2) table

/-- Writes the pairs whose keys are free. -/
def supplement (table : Table α) (entries : List (String × α)) : Table α :=
  entries.foldl
    (fun merged entry =>
      if merged.contains entry.1 then merged else merged.insert entry.1 entry.2)
    table

/-- All pairs of both tables; the first table wins under a key of both. -/
def union (table other : Table α) : Table α :=
  table.entries.foldl (fun merged entry => merged.insert entry.1 entry.2) other

end Table

end Chronicle
