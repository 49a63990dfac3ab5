import Chronicle.Command
import Chronicle.Proofs.Library.Load
import Chronicle.Proofs.Parameter.Interruption
import Chronicle.Proofs.Text.Trimming

/-!
# Reading arguments and writing them

A written argument is read if it has an equals sign and more than blanks before
the first one.  Every key that is read can be written, and so can the keys that
processing derives from it, so prepared arguments are read from their written
form as they are.
-/

namespace Chronicle

open Parameter.Definition (WritableKey)

namespace Arguments

/-! ## Parts of a written argument -/

/-- The part before the first equals sign. -/
def beforeSeparator (written : String) : String :=
  String.ofList (written.toList.takeWhile fun character => character != '=')

/-- The part behind the first equals sign. -/
def behindSeparator (written : String) : String :=
  String.ofList (written.toList.dropWhile fun character => character != '=').tail

/-- The key of a written argument, and its value. -/
def stated (written : String) : String × String :=
  (Text.trim (beforeSeparator written), behindSeparator written)

variable {written : String} {pair : String × String} {arguments : Arguments}

theorem splitPair_of_separator
    (separated : '=' ∈ written.toList) :
    splitPair written = some (beforeSeparator written, behindSeparator written) := by
  rw [splitPair, beforeSeparator, behindSeparator]
  cases rest : written.toList.dropWhile fun character => character != '=' with
  | nil =>
      have noneLeft := List.dropWhile_eq_nil_iff.mp rest '=' separated
      cases noneLeft
  | cons _ _ => rfl

/-- Whatever is joined by an equals sign is found again, if the first part has
none. -/
theorem separator_parts
    {before : String} (value : String)
    (noSeparator : '=' ∉ before.toList) :
    beforeSeparator (before ++ "=" ++ value) = before ∧
      behindSeparator (before ++ "=" ++ value) = value := by
  have separated : '=' ∈ (before ++ "=" ++ value).toList := by simp
  have found := splitPair_eq_some_iff.mpr ⟨noSeparator, Eq.refl (before ++ "=" ++ value)⟩
  rw [splitPair_of_separator separated, Option.some.injEq, Prod.mk.injEq] at found
  exact found

theorem reads_iff :
    Reads written pair ↔
      ('=' ∈ written.toList ∧ Text.trim (beforeSeparator written) ≠ "") ∧
        stated written = pair := by
  constructor
  · intro reads
    cases reads with
    | intro value noSeparator hasKey =>
        obtain ⟨isBefore, isValue⟩ := separator_parts value noSeparator
        rw [stated, isBefore, isValue]
        exact ⟨⟨by simp, hasKey⟩, rfl⟩
  · intro ⟨⟨separated, hasKey⟩, isPair⟩
    obtain ⟨noSeparator, isWritten⟩ :=
      splitPair_eq_some_iff.mp (splitPair_of_separator separated)
    have reads := Reads.intro (behindSeparator written) noSeparator hasKey
    rw [← isWritten] at reads
    rw [← isPair]
    exact reads

theorem parse_eq_ok_iff_stated
    {texts : List String} :
    parse texts = .ok arguments ↔
      (∀ text ∈ texts, '=' ∈ text.toList ∧ Text.trim (beforeSeparator text) ≠ "") ∧
        arguments.entries = texts.map stated := by
  have reads_eq : Reads = fun text pair =>
      ('=' ∈ text.toList ∧ Text.trim (beforeSeparator text) ≠ "") ∧ stated text = pair := by
    funext text pair
    exact propext reads_iff
  rw [parse_eq_ok_iff, reads_eq, List.forall₂_and_left, ← List.forall₂_map_left_iff,
    List.forall₂_eq_eq_eq, eq_comm]

/-- Reading succeeds if all keys are there and differ. -/
theorem parse_succeeds_iff
    {texts : List String} :
    (∃ arguments, parse texts = .ok arguments) ↔
      (∀ text ∈ texts, '=' ∈ text.toList ∧ Text.trim (beforeSeparator text) ≠ "") ∧
        (texts.map fun text => Text.trim (beforeSeparator text)).Nodup := by
  have keys_stated : (texts.map stated).map Prod.fst =
      texts.map fun text => Text.trim (beforeSeparator text) :=
    List.map_map
  simp only [parse_eq_ok_iff_stated, ← keys_stated]
  constructor
  · intro ⟨arguments, complete, entries⟩
    exact ⟨complete, entries ▸ arguments.distinct⟩
  · intro ⟨complete, distinct⟩
    exact ⟨⟨_, distinct⟩, complete, rfl⟩

/-! ## Keys that can be written -/

/-- All keys can be written. -/
def Writable (arguments : Arguments) : Prop :=
  ∀ key ∈ arguments.keys, WritableKey key

theorem Reads.writable
    (reads : Reads written pair) :
    WritableKey pair.1 := by
  cases reads with
  | intro value noSeparator hasKey =>
      refine ⟨hasKey, Text.trim_trim _, ?_⟩
      intro member
      exact noSeparator (Text.mem_of_mem_trim member)

theorem reads_writePair_iff :
    Reads (writePair pair) pair ↔ WritableKey pair.1 := by
  constructor
  · exact Reads.writable
  · intro writable
    have hasKey : Text.trim pair.1 ≠ "" := by
      rw [writable.trimmed]
      exact writable.nonempty
    have reads := Reads.intro pair.2 writable.noSeparator hasKey
    rw [writable.trimmed] at reads
    exact reads

/-- Arguments are read from their written form if their keys can be written, and
only then. -/
theorem parse_write_iff :
    parse arguments.write = .ok arguments ↔ arguments.Writable := by
  rw [parse_eq_ok_iff, write, List.forall₂_map_left_iff, List.forall₂_same, Writable, keys,
    List.forall_mem_map]
  simp only [reads_writePair_iff]

theorem writable_of_parse
    {texts : List String}
    (parsed : parse texts = .ok arguments) :
    arguments.Writable := by
  intro key member
  obtain ⟨pair, inEntries, rfl⟩ := List.mem_map.mp member
  obtain ⟨_, _, reads⟩ := Paired.exists_left (parse_eq_ok_iff.mp parsed) inEntries
  exact reads.writable

theorem Writable.set
    (writable : arguments.Writable)
    {key : String}
    (keyWritable : WritableKey key)
    (value : String) :
    (arguments.set key value).Writable := by
  intro other member
  rw [← contains_iff, contains_set, Bool.or_eq_true, decide_eq_true_iff] at member
  cases member with
  | inl same => exact same ▸ keyWritable
  | inr inArguments => exact writable other (contains_iff.mp inArguments)

theorem Writable.setAll
    (writable : arguments.Writable)
    {pairs : List (String × String)}
    (pairsWritable : ∀ pair ∈ pairs, WritableKey pair.1) :
    (arguments.setAll pairs).Writable := by
  induction pairs generalizing arguments with
  | nil => exact writable
  | cons head rest inductionHypothesis =>
      obtain ⟨headWritable, restWritable⟩ := List.forall_mem_cons.mp pairsWritable
      exact inductionHypothesis (writable.set headWritable head.2) restWritable

end Arguments

/-! ## Processing keeps keys writable -/

namespace Parameter

theorem Definition.WritableKey.append
    {id suffix : String}
    (writable : WritableKey id)
    (suffixWritable : WritableKey suffix) :
    WritableKey (id ++ suffix) := by
  constructor
  · rw [ne_eq, String.append_eq_empty_iff]
    exact fun empty => writable.nonempty empty.1
  · exact Text.trim_append writable.trimmed suffixWritable.trimmed writable.nonempty
      suffixWritable.nonempty
  · rw [String.toList_append, List.mem_append, not_or]
    exact ⟨writable.noSeparator, suffixWritable.noSeparator⟩

theorem Definition.writable_derivedKeys
    {definition : Definition}
    (writable : WritableKey definition.id) :
    ∀ key ∈ definition.derivedKeys, WritableKey key := by
  intro key member
  cases mem_derivedKeys member with
  | inl isPlayer =>
      rw [isPlayer, playerKey]
      exact writable.append (isWellFormedId_iff.mp (by decide))
  | inr isCharacter =>
      rw [isCharacter, characterKey]
      exact writable.append (isWellFormedId_iff.mp (by decide))

variable {arguments processed : Arguments}

/-- A parameter acts if its ID is a key of the arguments, whatever key led to
it. -/
theorem Definition.process_writable
    {definition : Definition}
    (writable : arguments.Writable)
    (done : definition.process arguments = .ok processed) :
    processed.Writable := by
  cases held : arguments.get? definition.id with
  | none =>
      rw [process, held, Except.ok.injEq] at done
      exact done ▸ writable
  | some value =>
      have inKeys : definition.id ∈ arguments.keys :=
        Arguments.mem_keys_iff.mpr ⟨value, held⟩
      have idWritable := writable definition.id inKeys
      cases definition.effect_or_refuses value with
      | inl accepted =>
          obtain ⟨newValue, derived, effect⟩ := accepted
          rw [process_of_effect held effect, Except.ok.injEq] at done
          rw [← done]
          apply writable.setAll
          rw [List.forall_mem_cons]
          refine ⟨idWritable, ?_⟩
          intro pair member
          exact writable_derivedKeys idWritable pair.1 (effect.mem_derivedKeys pair member)
      | inr refused =>
          obtain ⟨cause, refuses⟩ := refused
          rw [process_of_refuses held refuses] at done
          cases done

/-- The run keeps keys writable, also where it stops. -/
theorem Store.processKeys_writable
    (store : Store)
    (writable : arguments.Writable)
    (keys : List String) :
    (store.processKeys keys arguments).1.Writable := by
  induction keys generalizing arguments with
  | nil => exact writable
  | cons key rest inductionHypothesis =>
      rw [processKeys]
      cases store.get? key with
      | none =>
          rw [within_error]
          exact writable
      | some definition =>
          cases outcome : definition.process arguments with
          | error fault =>
              simp only [outcome, within_error]
              exact writable
          | ok processed =>
              simp only [outcome, within_ok]
              exact inductionHypothesis (definition.process_writable writable outcome)

end Parameter

/-! ## Prepared arguments -/

theorem Template.writable_of_prepare
    {template : Template} {texts : List String} {processed : Arguments}
    (prepared : template.prepare texts = .ok processed) :
    processed.Writable := by
  obtain ⟨arguments, parsed, done⟩ := prepare_eq_ok_iff.mp prepared
  have kept := template.parameters.processKeys_writable
    (Arguments.writable_of_parse parsed) arguments.keys
  rw [Parameter.Store.process] at done
  rw [done] at kept
  exact kept

theorem Command.lines_check_eq_ok_iff
    {library : Library} {reference : String} {texts shown : List String} :
    Command.lines library (.check reference texts) = .ok shown ↔
      ∃ template processed, library.get reference = .ok template ∧
        template.prepare texts = .ok processed ∧ processed.write = shown := by
  simp only [lines, bind_eq_ok_iff, pure, Except.pure, Except.ok.injEq, exists_and_left]

namespace Arguments

/-- Written arguments are read if each has an equals sign with a key before the
first one, and the keys differ; what is read are the trimmed keys with all that
stands behind the sign, in order.  Prepared arguments, and the lines that the
check of arguments shows for them, are read as the same arguments. -/
theorem reading_inverts_writing :
    (∀ texts : List String,
      (∃ arguments, parse texts = .ok arguments) ↔
        (∀ text ∈ texts, '=' ∈ text.toList ∧ Text.trim (beforeSeparator text) ≠ "") ∧
          (texts.map fun text => Text.trim (beforeSeparator text)).Nodup) ∧
      (∀ (texts : List String) (arguments : Arguments), parse texts = .ok arguments →
        arguments.entries =
          texts.map fun text => (Text.trim (beforeSeparator text), behindSeparator text)) ∧
      (∀ (template : Template) (texts : List String) (processed : Arguments),
        template.prepare texts = .ok processed → parse processed.write = .ok processed) ∧
      ∀ (library : Library) (reference : String) (texts shown : List String),
        Command.lines library (.check reference texts) = .ok shown →
          ∃ template processed, library.get reference = .ok template ∧
            template.prepare texts = .ok processed ∧
            processed.write = shown ∧
            parse shown = .ok processed := by
  refine ⟨fun _ => parse_succeeds_iff, ?_, ?_, ?_⟩
  · intro texts arguments parsed
    exact (parse_eq_ok_iff_stated.mp parsed).2
  · intro template texts processed prepared
    exact parse_write_iff.mpr (Template.writable_of_prepare prepared)
  · intro library reference texts shown done
    obtain ⟨template, processed, found, prepared, isShown⟩ :=
      Command.lines_check_eq_ok_iff.mp done
    refine ⟨template, processed, found, prepared, isShown, ?_⟩
    rw [← isShown]
    exact parse_write_iff.mpr (Template.writable_of_prepare prepared)

/-- A template with two society IDs and a text. -/
def visit : List (String × Record) :=
  [("visit.yml", { Record.empty with
      id := some "visit"
      description := some "Visit"
      parameters := some Parameter.Store.company })]

/-- Equals signs and blanks in a value, and blanks around keys. -/
def visitWritten : List String :=
  [" host= 12 - 345", "event\t= a = b ", "guest=7-\t٣"]

def visitShown : List String :=
  ["host=12-345", "event= a = b ", "guest=7-٣", "host.player=12", "host.char=345",
    "guest.player=7", "guest.char=٣"]

theorem reading_inverts_writing_visit :
    (∃ arguments,
      parse visitWritten = .ok arguments ∧
      arguments.entries = [("host", " 12 - 345"), ("event", " a = b "), ("guest", "7-\t٣")]) ∧
      (¬ ∃ arguments, parse ["event=a", "\u00a0event =b"] = .ok arguments) ∧
      ∃ library template processed,
        Library.load visit = .ok library ∧
        library.get "visit" = .ok template ∧
        template.prepare visitWritten = .ok processed ∧
        parse processed.write = .ok processed ∧
        Command.lines library (.check "visit" visitWritten) = .ok visitShown ∧
        parse visitShown = .ok processed := by
  obtain ⟨succeeds, entries, restored, ofCheck⟩ := reading_inverts_writing
  refine ⟨?_, ?_, ?_⟩
  · obtain ⟨arguments, parsed⟩ := (succeeds visitWritten).mpr (by decide +kernel)
    refine ⟨arguments, parsed, (entries visitWritten arguments parsed).trans ?_⟩
    decide +kernel
  · rw [succeeds]
    decide +kernel
  · obtain ⟨shown, steps⟩ := exists_of_isOk
      (Library.load visit >>= fun library =>
        Command.lines library (.check "visit" visitWritten))
      (by decide +kernel)
    have isShown :
        (Library.load visit >>= fun library =>
          Command.lines library (.check "visit" visitWritten)).toOption =
            some visitShown := by
      decide +kernel
    rw [steps] at isShown
    obtain rfl := Option.some.inj isShown
    obtain ⟨library, loaded, done⟩ := bind_eq_ok_iff.mp steps
    obtain ⟨template, processed, found, prepared, _, read⟩ :=
      ofCheck library "visit" visitWritten visitShown done
    exact ⟨library, template, processed, loaded, found, prepared,
      restored template visitWritten processed prepared, done, read⟩

end Arguments

end Chronicle
