import Mathlib.Data.List.Nodup
import Mathlib.Data.List.Pairwise
import Chronicle.Library
import Chronicle.Proofs.Inheritance
import Chronicle.Proofs.Library.Names

/-!
# Libraries built from records

Building makes a template of each record and inserts it, and then registers the
aliases of all templates in the order of their IDs.  While this goes on the
library holds exactly the templates and aliases taken in so far, each name
once.  It ends with all of them or with the first record or name that does not
fit.
-/

namespace Chronicle.Library

/-! ## What a library holds while it is built -/

/-- The claims of a template to aliases. -/
def claims (template : Template) (aliases : List String) : List (String × Template) :=
  aliases.map fun alias_ => (alias_, template)

/-- The library holds the templates under their IDs and the claims as aliases,
and no name twice. -/
structure Building
    (library : Library) (templates : List Template) (claimed : List (String × Template)) :
    Prop where
  stored : ∀ id template, library.templates.get? id = some template ↔
    template ∈ templates ∧ template.id = id
  listed : ∀ alias_ id, library.aliases.get? alias_ = some id ↔
    ∃ template, (alias_, template) ∈ claimed ∧ template.id = id
  known : ∀ claim ∈ claimed, claim.2 ∈ templates
  distinct : (templates.map Template.id ++ claimed.map Prod.fst).Nodup

theorem building_empty : Building empty [] [] := by
  refine ⟨?_, ?_, by simp, by simp⟩
  · intro id template
    simp [empty, Table.empty, Table.get?, Table.lookup]
  · intro alias_ id
    simp [empty, Table.empty, Table.get?, Table.lookup]

section

variable {library : Library} {templates : List Template} {claimed : List (String × Template)}

theorem Building.insert
    (building : library.Building templates [])
    {template : Template}
    (isNew : library.templates.get? template.id = none) :
    Building { library with templates := library.templates.insert template.id template }
      (templates ++ [template]) [] := by
  have unused : ∀ other ∈ templates, other.id ≠ template.id := by
    intro other member same
    have found := (building.stored other.id other).mpr ⟨member, rfl⟩
    rw [same, isNew] at found
    cases found
  refine ⟨?_, building.listed, by simp, ?_⟩
  · intro id other
    rw [Table.get?_insert]
    split
    · rename_i same
      subst same
      constructor
      · rintro ⟨⟩
        exact ⟨by simp, rfl⟩
      · rintro ⟨member, same⟩
        rcases List.mem_append.mp member with earlier | isLast
        · exact absurd same (unused other earlier)
        · rw [List.mem_singleton.mp isLast]
    · rename_i different
      rw [building.stored]
      constructor
      · rintro ⟨member, own⟩
        exact ⟨List.mem_append_left _ member, own⟩
      · rintro ⟨member, own⟩
        rcases List.mem_append.mp member with earlier | isLast
        · exact ⟨earlier, own⟩
        · rw [List.mem_singleton.mp isLast] at own
          exact absurd own different
  · have ids := building.distinct
    simp only [List.map_nil, List.append_nil] at ids ⊢
    rw [List.map_append, List.nodup_append]
    refine ⟨ids, by simp, ?_⟩
    intro id isId other isLast
    obtain ⟨template, member, rfl⟩ := List.mem_map.mp isId
    rw [List.mem_singleton.mp isLast]
    exact unused template member

theorem insertAll_cons
    {item : String × Record} {rest : List (String × Record)} {template : Template}
    (made : Template.ofRecord item.1 item.2 = .ok template) :
    insertAll (item :: rest) library = library.insert template >>= insertAll rest := by
  rw [insertAll, made]
  rfl

/-- Inserting ends with a template of every record or at the first record that
is refused or has the ID of a template before it. -/
theorem insertAll_outcome
    (records : List (String × Record))
    (building : library.Building templates []) :
    (∃ further table, Made records further ∧
        insertAll records library = .ok { library with templates := table } ∧
        Building { library with templates := table } (templates ++ further) []) ∨
      ∃ before item after further, records = before ++ item :: after ∧ Made before further ∧
        ((∃ fault, Template.ofRecord item.1 item.2 = .error fault ∧
            insertAll records library = .error fault) ∨
          ∃ first second, Template.ofRecord item.1 item.2 = .ok second ∧
            first ∈ templates ++ further ∧ first.id = second.id ∧
            insertAll records library =
              .error (.duplicate .template second.id first.locator second.locator)) := by
  -- The library grows along the records, and `Building` says what it holds.
  induction records generalizing library templates with
  | nil => exact Or.inl ⟨[], library.templates, .nil, rfl, by simpa using building⟩
  | cons item rest inductionHypothesis =>
      cases made : Template.ofRecord item.1 item.2 with
      | error fault =>
          refine Or.inr ⟨[], item, rest, [], rfl, .nil, Or.inl ⟨fault, made, ?_⟩⟩
          rw [insertAll, made]
          rfl
      | ok template =>
          rw [insertAll_cons made, insert]
          cases taken : library.templates.get? template.id with
          | some first =>
              obtain ⟨isFirst, same⟩ := (building.stored _ _).mp taken
              exact Or.inr ⟨[], item, rest, [], rfl, .nil,
                Or.inr ⟨first, template, made, by simpa using isFirst, same, rfl⟩⟩
          | none =>
              rcases inductionHypothesis (building.insert taken) with
                ⟨further, table, restMade, done, grown⟩ |
                ⟨before, next, after, further, rfl, beforeMade, ending⟩
              · refine Or.inl ⟨template :: further, table, .cons made restMade, done, ?_⟩
                simpa using grown
              · refine Or.inr ⟨item :: before, next, after, template :: further, rfl,
                  .cons made beforeMade, ?_⟩
                simpa [bind, Except.bind] using ending

theorem insertAll_append
    (before after : List (String × Record)) :
    insertAll (before ++ after) library = insertAll before library >>= insertAll after := by
  induction before generalizing library with
  | nil => rfl
  | cons item rest inductionHypothesis =>
      rw [List.cons_append, insertAll, insertAll, bind_assoc]
      apply bind_congr
      intro template
      rw [bind_assoc]
      exact bind_congr fun inserted => inductionHypothesis

/-- Records that give templates with different IDs are all inserted. -/
theorem insertAll_of_distinct
    {records : List (String × Record)}
    (made : Made records templates)
    (distinct : (templates.map Template.id).Nodup) :
    ∃ inserted, insertAll records empty = .ok inserted ∧ inserted.Building templates [] := by
  rcases insertAll_outcome records building_empty with
    ⟨others, table, otherMade, inserted, building⟩ |
    ⟨before, item, after, front, rfl, frontMade, ending⟩
  · rw [made.unique otherMade]
    exact ⟨_, inserted, building⟩
  · obtain ⟨template, back, rfl, isTemplate⟩ := made.of_split frontMade
    rcases ending with ⟨fault, refuses, _⟩ | ⟨first, second, next, earlier, same, _⟩
    · rw [isTemplate] at refuses
      cases refuses
    · rw [isTemplate, Except.ok.injEq] at next
      subst next
      rw [List.map_append, List.map_cons, List.nodup_append] at distinct
      exact absurd same
        (distinct.2.2 _ (List.mem_map_of_mem earlier) _ (List.mem_cons_self ..))

/-! ## Registering aliases -/

/-- An alias is free, or its owner has it as its ID or has claimed it. -/
theorem Building.owner?_outcome
    (building : library.Building templates claimed) (alias_ : String) :
    (library.owner? alias_ = none ∧ alias_ ∉ templates.map Template.id ∧
        alias_ ∉ claimed.map Prod.fst) ∨
      ∃ owner, library.owner? alias_ = some owner ∧ owner ∈ templates ∧
        (owner.id = alias_ ∨ (alias_, owner) ∈ claimed) := by
  rw [owner?]
  cases stored : library.templates.get? alias_ with
  | some owner =>
      obtain ⟨isKnown, own⟩ := (building.stored _ _).mp stored
      exact Or.inr ⟨owner, rfl, isKnown, Or.inl own⟩
  | none =>
      have noId : alias_ ∉ templates.map Template.id := by
        intro member
        obtain ⟨template, isKnown, own⟩ := List.mem_map.mp member
        rw [(building.stored _ _).mpr ⟨isKnown, own⟩] at stored
        cases stored
      cases listed : library.aliases.get? alias_ with
      | some id =>
          obtain ⟨owner, isClaim, own⟩ := (building.listed _ _).mp listed
          have isKnown := building.known _ isClaim
          exact Or.inr ⟨owner, (building.stored _ _).mpr ⟨isKnown, own⟩, isKnown, Or.inr isClaim⟩
      | none =>
          refine Or.inl ⟨rfl, noId, ?_⟩
          intro member
          obtain ⟨⟨_, template⟩, isClaim, rfl⟩ := List.mem_map.mp member
          rw [(building.listed _ _).mpr ⟨template, isClaim, rfl⟩] at listed
          cases listed

theorem Building.register
    (building : library.Building templates claimed)
    {template : Template} {alias_ : String}
    (isKnown : template ∈ templates)
    (noId : alias_ ∉ templates.map Template.id)
    (unclaimed : alias_ ∉ claimed.map Prod.fst) :
    Building { library with aliases := library.aliases.insert alias_ template.id }
      templates (claimed ++ [(alias_, template)]) := by
  refine ⟨building.stored, ?_, ?_, ?_⟩
  · intro other id
    rw [Table.get?_insert]
    split
    · rename_i same
      subst same
      constructor
      · rintro ⟨⟩
        exact ⟨template, by simp, rfl⟩
      · rintro ⟨claimant, isClaim, rfl⟩
        rcases List.mem_append.mp isClaim with earlier | isLast
        · exact absurd (List.mem_map_of_mem earlier) unclaimed
        · cases List.mem_singleton.mp isLast
          rfl
    · rename_i different
      rw [building.listed]
      constructor
      · rintro ⟨claimant, isClaim, own⟩
        exact ⟨claimant, List.mem_append_left _ isClaim, own⟩
      · rintro ⟨claimant, isClaim, own⟩
        rcases List.mem_append.mp isClaim with earlier | isLast
        · exact ⟨claimant, earlier, own⟩
        · cases List.mem_singleton.mp isLast
          exact absurd rfl different
  · intro claim isClaim
    rcases List.mem_append.mp isClaim with earlier | isLast
    · exact building.known claim earlier
    · rw [List.mem_singleton.mp isLast]
      exact isKnown
  · rw [List.map_append, ← List.append_assoc, List.nodup_append]
    refine ⟨building.distinct, by simp, ?_⟩
    intro name isName other isLast same
    rw [List.map_singleton, List.mem_singleton] at isLast
    subst isLast same
    rcases List.mem_append.mp isName with isId | isAlias
    · exact noId isId
    · exact unclaimed isAlias

/-- Registering the aliases of one template ends with all of them or at the
first one that has an owner. -/
theorem registerAliases_outcome
    {template : Template} (aliases : List String)
    (building : library.Building templates claimed)
    (isKnown : template ∈ templates) :
    (∃ table, registerAliases template aliases library = .ok { library with aliases := table } ∧
        Building { library with aliases := table } templates (claimed ++ claims template aliases)) ∨
      ∃ before alias_ after owner, aliases = before ++ alias_ :: after ∧ owner ∈ templates ∧
        (owner.id = alias_ ∨ (alias_, owner) ∈ claimed ++ claims template before) ∧
        registerAliases template aliases library =
          .error (.duplicate .template alias_ owner.locator template.locator) := by
  induction aliases generalizing library claimed with
  | nil => exact Or.inl ⟨library.aliases, rfl, by simpa [claims] using building⟩
  | cons head rest inductionHypothesis =>
      rw [registerAliases]
      rcases building.owner?_outcome head with
        ⟨free, noId, unclaimed⟩ | ⟨owner, taken, isOwner, claimant⟩
      · rw [free]
        rcases inductionHypothesis (building.register isKnown noId unclaimed) with
          ⟨table, done, grown⟩ | ⟨before, alias_, after, owner, rfl, isOwner, claimant, failed⟩
        · exact Or.inl ⟨table, done, by simpa [claims] using grown⟩
        · exact Or.inr ⟨head :: before, alias_, after, owner, rfl, isOwner,
            by simpa [claims] using claimant, failed⟩
      · rw [taken]
        exact Or.inr ⟨[], head, rest, owner, rfl, isOwner, by simpa [claims] using claimant, rfl⟩

/-- The claims of all templates to their aliases. -/
def allClaims (entries : List (String × Template)) : List (String × Template) :=
  entries.flatMap fun entry => claims entry.2 entry.2.aliases

theorem registerAll_outcome
    {entries : List (String × Template)}
    (building : library.Building templates claimed)
    (known : ∀ entry ∈ entries, entry.2 ∈ templates) :
    (∃ table, registerAll entries library = .ok { library with aliases := table } ∧
        Building { library with aliases := table } templates (claimed ++ allClaims entries)) ∨
      ∃ front entry back before alias_ after owner, entries = front ++ entry :: back ∧
        entry.2.aliases = before ++ alias_ :: after ∧ owner ∈ templates ∧
        (owner.id = alias_ ∨
          (alias_, owner) ∈ claimed ++ allClaims front ++ claims entry.2 before) ∧
        registerAll entries library =
          .error (.duplicate .template alias_ owner.locator entry.2.locator) := by
  induction entries generalizing library claimed with
  | nil => exact Or.inl ⟨library.aliases, rfl, by simpa [allClaims] using building⟩
  | cons entry rest inductionHypothesis =>
      obtain ⟨isKnown, restKnown⟩ := List.forall_mem_cons.mp known
      rw [registerAll]
      rcases registerAliases_outcome entry.2.aliases building isKnown with
        ⟨table, done, grown⟩ | ⟨before, alias_, after, owner, split, isOwner, claimant, failed⟩
      · rw [done]
        rcases inductionHypothesis grown restKnown with
          ⟨whole, allDone, all⟩ |
          ⟨front, next, back, before, alias_, after, owner, rfl, split, isOwner, claimant, failed⟩
        · exact Or.inl ⟨whole, allDone, by simpa [allClaims] using all⟩
        · exact Or.inr ⟨entry :: front, next, back, before, alias_, after, owner, rfl, split,
            isOwner, by simpa [allClaims] using claimant, failed⟩
      · rw [failed]
        exact Or.inr ⟨[], entry, rest, before, alias_, after, owner, rfl, split, isOwner,
          by simpa [allClaims] using claimant, rfl⟩

end

/-! ## Building -/

/-- The library holds the templates under their IDs and all their aliases, no
name is claimed twice, and nothing is resolved yet. -/
structure Catalogued (library : Library) (templates : List Template) : Prop where
  stored : ∀ id template, library.templates.get? id = some template ↔
    template ∈ templates ∧ template.id = id
  listed : ∀ alias_ id, library.aliases.get? alias_ = some id ↔
    ∃ template ∈ templates, alias_ ∈ template.aliases ∧ template.id = id
  distinct : (names templates).Nodup
  unresolved : library.resolved = false
  noRoot : library.root = none

/-- Why records do not make a library. -/
inductive Rejection (records : List (String × Record)) : Fault → Prop
  | refused {before after : List (String × Record)} {item : String × Record}
      {templates : List Template} {fault : Fault}
      (split : records = before ++ item :: after)
      (made : Made before templates)
      (refuses : Template.ofRecord item.1 item.2 = .error fault) :
      Rejection records fault
  | repeatedId {before after : List (String × Record)} {item : String × Record}
      {templates : List Template} {first second : Template}
      (split : records = before ++ item :: after)
      (made : Made before templates)
      (next : Template.ofRecord item.1 item.2 = .ok second)
      (earlier : first ∈ templates)
      (same : first.id = second.id) :
      Rejection records (.duplicate .template second.id first.locator second.locator)
  | takenAlias {templates : List Template} {name : String} {first second : Template}
      (made : Made records templates)
      (clash : Clash templates name first second) :
      Rejection records (.duplicate .template name first.locator second.locator)

section

variable {library : Library} {templates : List Template}

theorem mem_claims_iff
    {template owner : Template} {aliases : List String} {alias_ : String} :
    (alias_, owner) ∈ claims template aliases ↔ alias_ ∈ aliases ∧ owner = template := by
  simp [claims, and_comm, eq_comm]

theorem mem_allClaims_iff
    {entries : List (String × Template)} {alias_ : String} {owner : Template} :
    (alias_, owner) ∈ allClaims entries ↔
      alias_ ∈ owner.aliases ∧ ∃ entry ∈ entries, owner = entry.2 := by
  simp only [allClaims, List.mem_flatMap, mem_claims_iff]
  constructor
  · rintro ⟨entry, member, declared, rfl⟩
    exact ⟨declared, entry, member, rfl⟩
  · rintro ⟨declared, entry, member, rfl⟩
    exact ⟨entry, member, declared, rfl⟩

theorem map_fst_allClaims (entries : List (String × Template)) :
    (allClaims entries).map Prod.fst = (entries.map Prod.snd).flatMap Template.aliases := by
  rw [allClaims, List.map_flatMap, List.flatMap_map]
  refine congrArg (entries.flatMap ·) (funext fun entry => ?_)
  simp [claims, Function.comp_def]

section

variable {claimed : List (String × Template)} (building : library.Building templates claimed)

include building

theorem Building.mem_entries_iff
    {entry : String × Template} :
    entry ∈ library.templates.entries ↔ entry.2 ∈ templates ∧ entry.2.id = entry.1 :=
  Table.mem_entries_iff.trans (building.stored entry.1 entry.2)

/-- The library lists its templates in the order of their IDs. -/
theorem Building.values_perm : library.templates.values.Perm templates := by
  have ids : (templates.map Template.id).Nodup := (List.nodup_append.mp building.distinct).1
  have distinct : library.templates.values.Nodup := by
    refine List.pairwise_map.mpr (library.templates.ordered.imp_of_mem ?_)
    intro earlier later isEarlier isLater less same
    rw [← (building.mem_entries_iff.mp isEarlier).2, ← (building.mem_entries_iff.mp isLater).2,
      same] at less
    exact String.lt_irrefl _ less
  -- Neither list repeats a template, so it is enough that they have the same members.
  rw [List.perm_ext_iff_of_nodup distinct ids.of_map]
  intro template
  rw [Table.values, List.mem_map]
  constructor
  · rintro ⟨entry, member, rfl⟩
    exact (building.mem_entries_iff.mp member).1
  · intro isKnown
    exact ⟨(template.id, template), building.mem_entries_iff.mpr ⟨isKnown, rfl⟩, rfl⟩

end

theorem Building.catalogued
    {table : Table String}
    (inserted : library.Building templates [])
    (building : Building { library with aliases := table } templates
      (allClaims library.templates.entries))
    (unresolved : library.resolved = false)
    (noRoot : library.root = none) :
    Catalogued { library with aliases := table } templates := by
  refine ⟨building.stored, ?_, ?_, unresolved, noRoot⟩
  · intro alias_ id
    rw [building.listed]
    constructor
    · rintro ⟨template, isClaim, own⟩
      exact ⟨template, building.known _ isClaim, (mem_allClaims_iff.mp isClaim).1, own⟩
    · rintro ⟨template, isKnown, declared, own⟩
      have isEntry : (template.id, template) ∈ library.templates.entries :=
        inserted.mem_entries_iff.mpr ⟨isKnown, rfl⟩
      exact ⟨template, mem_allClaims_iff.mpr ⟨declared, _, isEntry, rfl⟩, own⟩
  · have permuted : (names templates).Perm
        (templates.map Template.id ++ (allClaims library.templates.entries).map Prod.fst) := by
      rw [map_fst_allClaims]
      exact (inserted.values_perm.symm.flatMap_right _).append_left _
    exact permuted.nodup_iff.mpr building.distinct

/-- An alias that has an owner when its turn comes is claimed twice. -/
theorem Building.clash
    (building : library.Building templates [])
    {front back : List (String × Template)} {entry : String × Template}
    {before after : List String} {alias_ : String} {owner : Template}
    (entries : library.templates.entries = front ++ entry :: back)
    (split : entry.2.aliases = before ++ alias_ :: after)
    (isOwner : owner ∈ templates)
    (claimant : owner.id = alias_ ∨ (alias_, owner) ∈ allClaims front ++ claims entry.2 before) :
    Clash templates alias_ owner entry.2 := by
  have isStored : entry ∈ library.templates.entries := by simp [entries]
  have isEntry := building.mem_entries_iff.mp isStored
  have declared : alias_ ∈ entry.2.aliases := by simp [split]
  rcases claimant with rfl | isClaim
  · exact .idAndAlias isOwner isEntry.1 declared
  · rcases List.mem_append.mp isClaim with earlier | own
    · -- Aliases are registered in the order of the IDs, so the owner has the lesser one.
      obtain ⟨ownerDeclared, other, inFront, rfl⟩ := mem_allClaims_iff.mp earlier
      have inEntries := entries ▸ List.mem_append_left _ inFront
      have ordered := library.templates.ordered
      rw [entries, List.pairwise_append] at ordered
      have less := ordered.2.2 other inFront entry (List.mem_cons_self ..)
      rw [← isEntry.2, ← (building.mem_entries_iff.mp inEntries).2] at less
      exact .aliases isOwner isEntry.1 less ownerDeclared declared
    · obtain ⟨inBefore, rfl⟩ := mem_claims_iff.mp own
      exact .ownAliases isOwner split inBefore

/-- Building ends with a catalogue of the templates of all records, or with a
reason why there is none. -/
theorem build_spec (records : List (String × Record)) :
    (∃ templates library, Made records templates ∧ build records = .ok library ∧
        library.Catalogued templates) ∨
      ∃ fault, build records = .error fault ∧ Rejection records fault := by
  rw [build]
  rcases insertAll_outcome records building_empty with
    ⟨templates, table, made, inserted, building⟩ |
    ⟨before, item, after, templates, split, made, ending⟩
  · rw [List.nil_append] at building
    rw [inserted]
    rcases registerAll_outcome building (fun entry => (building.mem_entries_iff.mp · |>.1)) with
      ⟨aliases, registered, grown⟩ |
      ⟨front, entry, back, beforeAlias, alias_, afterAlias, owner, entries, split, isOwner,
        claimant, failed⟩
    · exact Or.inl ⟨templates, _, made, registered, building.catalogued grown rfl rfl⟩
    · exact Or.inr ⟨_, failed, .takenAlias made (building.clash entries split isOwner claimant)⟩
  · rcases ending with ⟨fault, refuses, failed⟩ | ⟨first, second, next, earlier, same, failed⟩
    · rw [failed]
      exact Or.inr ⟨fault, rfl, .refused split made refuses⟩
    · rw [failed]
      exact Or.inr ⟨_, rfl, .repeatedId split made next earlier same⟩

end

theorem exists_catalogue
    {records : List (String × Record)} {library : Library}
    (built : build records = .ok library) :
    ∃ templates, Made records templates ∧ library.Catalogued templates := by
  rcases build_spec records with ⟨templates, other, made, success, catalogued⟩ | ⟨fault, failed, _⟩
  · rw [built] at success
    cases success
    exact ⟨templates, made, catalogued⟩
  · rw [built] at failed
    cases failed

/-- Records that all make templates are rejected for a clash. -/
theorem Rejection.clash
    {records : List (String × Record)} {templates : List Template} {fault : Fault}
    (rejection : Rejection records fault)
    (made : Made records templates) :
    ∃ name first second, Clash templates name first second ∧
      fault = .duplicate .template name first.locator second.locator := by
  cases rejection with
  | refused split frontMade refuses =>
      subst split
      obtain ⟨template, _, _, isTemplate⟩ := made.of_split frontMade
      rw [isTemplate] at refuses
      cases refuses
  | @repeatedId before after item front first second split frontMade next earlier same =>
      subst split
      obtain ⟨template, back, rfl, isTemplate⟩ := made.of_split frontMade
      rw [isTemplate, Except.ok.injEq] at next
      subst next
      exact ⟨_, first, template, .ids rfl earlier same, rfl⟩
  | @takenAlias others name first second otherMade clash =>
      obtain rfl := made.unique otherMade
      exact ⟨name, first, second, clash, rfl⟩

theorem build_of_stop
    {before after : List (String × Record)} {item : String × Record} {inserted : Library}
    {fault : Fault}
    (insertion : insertAll before empty = .ok inserted)
    (stops : insertAll (item :: after) inserted = .error fault) :
    build (before ++ item :: after) = .error fault := by
  have failed : insertAll (before ++ item :: after) empty = .error fault := by
    rw [insertAll_append, insertion]
    exact stops
  rw [build, failed]
  rfl

/-- Records make a library exactly if each of them makes a template and no name
is claimed twice.  The first record that is refused or repeats an ID ends the
building; any other failure is a clash, told with the files of both
claimants. -/
theorem build_outcome (records : List (String × Record)) :
    ((∃ library, build records = .ok library) ↔
        ∃ templates, Made records templates ∧ (names templates).Nodup) ∧
      (∀ templates fault, Made records templates → build records = .error fault →
        ∃ name first second, Clash templates name first second ∧
          List.Duplicate name (names templates) ∧
          fault = .duplicate .template name first.locator second.locator) ∧
      ∀ before item after front, records = before ++ item :: after →
        Made before front → (front.map Template.id).Nodup →
        (∀ fault, Template.ofRecord item.1 item.2 = .error fault →
          build records = .error fault) ∧
        ∀ first second, Template.ofRecord item.1 item.2 = .ok second →
          first ∈ front → first.id = second.id →
          build records =
            .error (.duplicate .template second.id first.locator second.locator) := by
  refine ⟨⟨?_, ?_⟩, ?_, ?_⟩
  · rintro ⟨library, built⟩
    obtain ⟨templates, made, catalogued⟩ := exists_catalogue built
    exact ⟨templates, made, catalogued.distinct⟩
  · rintro ⟨templates, made, distinct⟩
    rcases build_spec records with ⟨_, library, _, built, _⟩ | ⟨fault, _, rejection⟩
    · exact ⟨library, built⟩
    · obtain ⟨name, first, second, clash, _⟩ := rejection.clash made
      exact absurd distinct clash.duplicate.not_nodup
  · intro templates fault made failed
    rcases build_spec records with ⟨_, library, _, built, _⟩ | ⟨other, otherFailed, rejection⟩
    · rw [failed] at built
      cases built
    · rw [failed, Except.error.injEq] at otherFailed
      subst otherFailed
      obtain ⟨name, first, second, clash, isFault⟩ := rejection.clash made
      exact ⟨name, first, second, clash, clash.duplicate, isFault⟩
  · rintro before item after front rfl made distinct
    obtain ⟨inserted, insertion, building⟩ := insertAll_of_distinct made distinct
    constructor
    · intro fault refuses
      apply build_of_stop insertion
      rw [insertAll, refuses]
      rfl
    · intro first second next earlier same
      have taken : inserted.templates.get? second.id = some first :=
        (building.stored _ _).mpr ⟨earlier, same⟩
      apply build_of_stop insertion
      rw [insertAll_cons next, insert, taken]
      rfl

/-- Two files with one alias.  The template with the lesser ID owns it, although
its file comes last. -/
def sharedAlias : List (String × Record) :=
  [("summer.yml", { Record.empty with
      id := some "summer", description := some "Summer", aliases := some ["season"] }),
    ("autumn.yml", { Record.empty with
      id := some "autumn", description := some "Autumn", aliases := some ["season"] })]

theorem build_outcome_sharedAlias :
    ∃ templates fault name first second,
      Made sharedAlias templates ∧
      ¬ (names templates).Nodup ∧
      build sharedAlias = .error fault ∧
      fault.message = "duplicate template ID 'season' (autumn.yml and summer.yml)" ∧
      Clash templates name first second ∧
      fault = .duplicate .template name first.locator second.locator := by
  obtain ⟨summer, isSummer⟩ := exists_of_isOk
    (Template.ofRecord "summer.yml" (sharedAlias.map Prod.snd)[0]) (by decide +kernel)
  obtain ⟨autumn, isAutumn⟩ := exists_of_isOk
    (Template.ofRecord "autumn.yml" (sharedAlias.map Prod.snd)[1]) (by decide +kernel)
  have made : Made sharedAlias [summer, autumn] := .cons isSummer (.cons isAutumn .nil)
  have raised :
      (faultOf? (build sharedAlias)).map Fault.message =
        some "duplicate template ID 'season' (autumn.yml and summer.yml)" := by
    decide +kernel
  obtain ⟨fault, isFault, message⟩ := Option.map_eq_some_iff.mp raised
  have failed : build sharedAlias = .error fault := faultOf?_eq_some_iff.mp isFault
  obtain ⟨_, clashes, _⟩ := build_outcome sharedAlias
  obtain ⟨name, first, second, clash, duplicate, isDuplicate⟩ := clashes _ fault made failed
  exact ⟨_, fault, name, first, second, made, duplicate.not_nodup, failed, message, clash,
    isDuplicate⟩

/-! ## Built libraries -/

structure Linked (library : Library) : Prop where
  /-- Every template stands under its own ID. -/
  own : ∀ id template, library.templates.get? id = some template → template.id = id
  /-- Every alias leads to a template that declares it. -/
  aliased : ∀ alias_ id, library.aliases.get? alias_ = some id →
    ∃ template, library.templates.get? id = some template ∧ alias_ ∈ template.aliases

theorem Catalogued.linked
    {library : Library} {templates : List Template}
    (catalogued : library.Catalogued templates) :
    library.Linked where
  own _ _ found := ((catalogued.stored _ _).mp found).2
  aliased alias_ id found := by
    obtain ⟨template, isKnown, declared, own⟩ := (catalogued.listed _ _).mp found
    exact ⟨template, (catalogued.stored _ _).mpr ⟨isKnown, own⟩, declared⟩

/-- A library that nothing but building has happened to. -/
structure BuiltFrom (records : List (String × Record)) (library : Library) : Prop where
  linked : library.Linked
  source : ∀ id template, library.templates.get? id = some template →
    ∃ locator record, (locator, record) ∈ records ∧
      Template.ofRecord locator record = .ok template
  unresolved : library.resolved = false

theorem build_builtFrom
    {records : List (String × Record)} {library : Library}
    (built : build records = .ok library) :
    BuiltFrom records library := by
  obtain ⟨templates, made, catalogued⟩ := exists_catalogue built
  refine ⟨catalogued.linked, ?_, catalogued.unresolved⟩
  intro id template found
  exact made.exists_record ((catalogued.stored id template).mp found).1

/-! ## References -/

/-- In a linked library an ID or an alias stands for the ID of a template that
is there. -/
theorem Linked.get?_of_canonicalId
    {library : Library} (linked : library.Linked)
    {reference id : String}
    (canonical : library.canonicalId reference = some id) :
    ∃ template, library.templates.get? id = some template := by
  unfold canonicalId at canonical
  split at canonical
  · rename_i present
    cases canonical
    exact Table.contains_iff.mp present
  · obtain ⟨template, found, _⟩ := linked.aliased reference id canonical
    exact ⟨template, found⟩

theorem get_eq_ok_iff
    {library : Library} {reference : String} {template : Template} :
    library.get reference = .ok template ↔
      ∃ id, library.canonicalId reference = some id ∧
        library.templates.get? id = some template := by
  unfold get
  rw [← Option.bind_eq_some_iff]
  cases (library.canonicalId reference).bind library.templates.get? <;> simp

theorem get_of_stored
    {library : Library} {id : String} {template : Template}
    (stored : library.templates.get? id = some template) :
    library.get id = .ok template := by
  have known : library.templates.contains id = true := Table.contains_iff.mpr ⟨template, stored⟩
  exact get_eq_ok_iff.mpr ⟨id, by rw [canonicalId, if_pos known], stored⟩

end Chronicle.Library
