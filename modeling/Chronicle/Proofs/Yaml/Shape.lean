import Mathlib.Data.List.Forall2
import Chronicle.Proofs.Outcome
import Chronicle.Yaml.Shape

/-!
# What strict reading accepts

Every reader of a single value is described by the values that it accepts and
what it makes of them.  Fields are read one by one into a draft; as each of them
is independent of the others, the draft depends on what the fields give and not
on their order.
-/

namespace Chronicle.Yaml.Shape

open Decimal (Binary64)

/-! ## Scalars -/

inductive IsText : Value → String → Prop
  | text {value : Value} {text : String}
      (below : value.untagged = .string text) :
      IsText value text

/-- Integers count as floating point numbers. -/
inductive IsFloat : Value → Binary64 → Prop
  | integer {value : Value} {number : Int}
      (below : value.untagged = .number (.integer number)) :
      IsFloat value (Binary64.ofInt number)
  | float {value : Value} {number : Binary64}
      (below : value.untagged = .number (.float number)) :
      IsFloat value number

inductive IsNatural : Value → Nat → Prop
  | natural {value : Value} {number : Nat}
      (below : value.untagged = .number (.integer number))
      (bound : number < Nat.pow 2 32) :
      IsNatural value number

/-- Null alone leaves open what else is read. -/
inductive IsOptional {α : Type} (Is : Value → α → Prop) : Value → Option α → Prop
  | absent : IsOptional Is .null none
  | given {value : Value} {result : α}
      (notNull : value ≠ .null)
      (is : Is value result) :
      IsOptional Is value (some result)

inductive AreTexts : Value → List String → Prop
  | null {value : Value}
      (below : value.untagged = .null) :
      AreTexts value []
  | sequence {value : Value} {items : List Value} {texts : List String}
      (below : value.untagged = .sequence items)
      (each : List.Forall₂ IsText items texts) :
      AreTexts value texts

theorem text_eq_ok_iff
    {value : Value} {result : String} :
    text value = .ok result ↔ IsText value result := by
  constructor
  · intro read
    rw [text] at read
    split at read
    · rename_i below
      cases read
      exact .text below
    · cases read
  · rintro ⟨below⟩
    rw [text, below]

theorem float_eq_ok_iff
    {value : Value} {result : Binary64} :
    float value = .ok result ↔ IsFloat value result := by
  constructor
  · intro read
    rw [float] at read
    split at read
    · rename_i below
      cases read
      exact .integer below
    · rename_i below
      cases read
      exact .float below
    · cases read
  · rintro (below | below) <;> rw [float, below]

theorem natural_eq_ok_iff
    {value : Value} {result : Nat} :
    natural value = .ok result ↔ IsNatural value result := by
  have bound : Int.pow 2 32 = 4294967296 := by decide
  have natBound : Nat.pow 2 32 = 4294967296 := by decide
  constructor
  · intro read
    rw [natural] at read
    split at read
    · rename_i number below
      split at read
      · rename_i inRange
        cases read
        rw [bound] at inRange
        have same : number = (number.toNat : Int) := by omega
        refine .natural (same ▸ below) ?_
        omega
      · cases read
    · cases read
  · rintro ⟨below, small⟩
    rw [natBound] at small
    have inRange : (0 : Int) ≤ result ∧ (result : Int) < Int.pow 2 32 := by
      rw [bound]
      omega
    rw [natural, below]
    simp only [if_pos inRange, Int.toNat_natCast]

theorem optional_eq_ok_iff
    {α : Type} {read : Value → Except Mismatch α} {Is : Value → α → Prop}
    (reads : ∀ value result, read value = .ok result ↔ Is value result)
    {value : Value} {result : Option α} :
    optional read value = .ok result ↔ IsOptional Is value result := by
  constructor
  · intro given
    rw [optional.eq_def] at given
    split at given
    · cases given
      exact .absent
    · rename_i notNull
      cases outcome : read value with
      | error mismatch =>
          rw [outcome] at given
          cases given
      | ok inner =>
          rw [outcome] at given
          cases given
          exact .given notNull ((reads ..).mp outcome)
  · rintro (_ | ⟨notNull, is⟩)
    · rfl
    · rw [optional.eq_def]
      split
      · exact absurd rfl notNull
      · rw [(reads ..).mpr is]
        rfl

theorem textItems_eq_ok_iff
    {items : List Value} {result : List String} :
    textItems items = .ok result ↔ List.Forall₂ IsText items result := by
  induction items generalizing result with
  | nil => simp [textItems, eq_comm]
  | cons item rest inductionHypothesis =>
      simp only [textItems, bind_eq_ok_iff, text_eq_ok_iff, inductionHypothesis]
      constructor
      · rintro ⟨head, isText, further, areTexts, made⟩
        cases made
        exact .cons isText areTexts
      · rintro (_ | ⟨isText, areTexts⟩)
        exact ⟨_, isText, _, areTexts, rfl⟩

theorem texts_eq_ok_iff
    {value : Value} {result : List String} :
    texts value = .ok result ↔ AreTexts value result := by
  constructor
  · intro read
    rw [texts] at read
    split at read
    · rename_i below
      exact .sequence below (textItems_eq_ok_iff.mp read)
    · rename_i below
      cases read
      exact .null below
    · cases read
  · rintro (below | ⟨below, each⟩)
    · rw [texts, below]
    · rw [texts, below]
      exact textItems_eq_ok_iff.mpr each

/-! ## Fields -/

/-- A tag does not change which field a key names. -/
def Names {Field : Type} (name : Field → String) (key : Value) (field : Field) : Prop :=
  key.untagged = .string (name field)

section

variable {Field Draft : Type} [DecidableEq Field] {known : List Field} {name : Field → String}
  {read : Field → Value → Draft → Except Mismatch Draft}

theorem fieldName_eq_ok_iff
    {key : Value} {result : String} :
    fieldName key = .ok result ↔ key.untagged = .string result := by
  rw [fieldName]
  cases key.untagged <;> simp

/-- One step of reading fields. -/
theorem fields_cons_eq_ok_iff
    (distinct : ∀ field other, name field = name other → field = other)
    {pair : Value × Value} {rest : List (Value × Value)} {seen : List Field}
    {draft result : Draft} :
    fields known name read (pair :: rest) seen draft = .ok result ↔
      ∃ field ∈ known, Names name pair.1 field ∧ field ∉ seen ∧
        ∃ next, read field pair.2 draft = .ok next ∧
          fields known name read rest (field :: seen) next = .ok result := by
  rw [fields]
  simp only [bind_eq_ok_iff, fieldName_eq_ok_iff]
  constructor
  · rintro ⟨given, isName, run⟩
    split at run
    · cases run
    · rename_i field found
      have named : name field = given := by simpa using List.find?_some found
      split at run
      · cases run
      · rename_i isNew
        obtain ⟨next, isNext, further⟩ := bind_eq_ok_iff.mp run
        exact ⟨field, List.mem_of_find?_eq_some found, isName.trans (congrArg Value.string named.symm),
          isNew, next, isNext, further⟩
  · rintro ⟨field, isKnown, named, isNew, next, isNext, further⟩
    have found : known.find? (fun other => name other == name field) = some field := by
      obtain ⟨other, isOther⟩ : ∃ other,
          known.find? (fun other => name other == name field) = some other :=
        Option.isSome_iff_exists.mp (List.find?_isSome.mpr ⟨field, isKnown, by simp⟩)
      have sameName : name other = name field := by simpa using List.find?_some isOther
      rw [isOther, distinct other field sameName]
    refine ⟨name field, named, ?_⟩
    simp only [found, if_neg isNew]
    exact bind_eq_ok_iff.mpr ⟨next, isNext, further⟩

/-- What every field keeps holds of the whole draft. -/
theorem fields_keep
    (Kept : Draft → Prop)
    (keeps : ∀ field value draft next, read field value draft = .ok next → Kept draft → Kept next)
    {pairs : List (Value × Value)} {seen : List Field} {draft result : Draft}
    (run : fields known name read pairs seen draft = .ok result)
    (kept : Kept draft) :
    Kept result := by
  induction pairs generalizing seen draft with
  | nil =>
      cases run
      exact kept
  | cons pair rest inductionHypothesis =>
      rw [fields, bind_eq_ok_iff] at run
      obtain ⟨given, _, run⟩ := run
      split at run
      · cases run
      · split at run
        · cases run
        · obtain ⟨next, isNext, further⟩ := bind_eq_ok_iff.mp run
          exact inductionHypothesis further (keeps _ _ draft next isNext kept)

/-- Fields are independent: reading one tells what it gives, whatever the draft,
and changes no other. -/
structure Independent {Datum : Type}
    (read : Field → Value → Draft → Except Mismatch Draft)
    (datum : Draft → Field → Datum) (Gives : Field → Value → Datum → Prop) : Prop where
  gives : ∀ field value draft next, read field value draft = .ok next →
    Gives field value (datum next field)
  others : ∀ field value draft next, read field value draft = .ok next →
    ∀ other, other ≠ field → datum next other = datum draft other
  readable : ∀ field value draft given, Gives field value given →
    ∃ next, read field value draft = .ok next ∧ datum next field = given
  ext : ∀ draft other : Draft, (∀ field, datum draft field = datum other field) → draft = other

/-- The fields are known, none is given twice, and the draft has what each
gives. -/
theorem fields_eq_ok_iff
    {Datum : Type} {datum : Draft → Field → Datum} {Gives : Field → Value → Datum → Prop}
    (independent : Independent read datum Gives)
    (distinct : ∀ field other, name field = name other → field = other)
    {pairs : List (Value × Value)} {seen : List Field} {draft result : Draft} :
    fields known name read pairs seen draft = .ok result ↔
      ∃ given, List.Forall₂ (fun pair field => Names name pair.1 field ∧ field ∈ known ∧
          Gives field pair.2 (datum result field)) pairs given ∧
        given.Nodup ∧ (∀ field ∈ given, field ∉ seen) ∧
        ∀ field, field ∉ given → datum result field = datum draft field := by
  induction pairs generalizing seen draft with
  | nil =>
      constructor
      · rintro ⟨⟩
        exact ⟨[], .nil, List.Pairwise.nil, by simp, fun _ _ => rfl⟩
      · rintro ⟨_, ⟨⟩, _, _, same⟩
        rw [independent.ext result draft fun field => same field (by simp)]
        rfl
  | cons pair rest inductionHypothesis =>
      rw [fields_cons_eq_ok_iff distinct]
      constructor
      · rintro ⟨field, isKnown, named, isNew, next, isNext, further⟩
        obtain ⟨given, all, nodup, fresh, same⟩ := inductionHypothesis.mp further
        have notAgain : field ∉ given := fun again => fresh field again (List.mem_cons_self ..)
        refine ⟨field :: given, .cons ⟨named, isKnown, ?_⟩ all,
          List.nodup_cons.mpr ⟨notAgain, nodup⟩, ?_, ?_⟩
        -- No later pair names the field, so that what it was given stays.
        · rw [same field notAgain]
          exact independent.gives field pair.2 draft next isNext
        · intro other isGiven
          rcases List.mem_cons.mp isGiven with rfl | inRest
          · exact isNew
          · exact fun isSeen => fresh other inRest (List.mem_cons_of_mem field isSeen)
        · intro other absent
          rw [List.mem_cons, not_or] at absent
          rw [same other absent.2]
          exact independent.others field pair.2 draft next isNext other absent.1
      · rintro ⟨_, _ | ⟨⟨named, isKnown, gives⟩, all⟩, nodup, fresh, same⟩
        rename_i field given
        obtain ⟨notAgain, givenNodup⟩ := List.nodup_cons.mp nodup
        obtain ⟨next, isNext, isGiven⟩ := independent.readable field pair.2 draft _ gives
        refine ⟨field, isKnown, named, fresh field (List.mem_cons_self ..), next, isNext,
          inductionHypothesis.mpr ⟨given, all, givenNodup, ?_, ?_⟩⟩
        · intro other inGiven isSeen
          rcases List.mem_cons.mp isSeen with rfl | before
          · exact notAgain inGiven
          · exact fresh other (List.mem_cons_of_mem field inGiven) before
        · intro other absent
          by_cases isField : other = field
          · rw [isField, isGiven]
          · rw [independent.others field pair.2 draft next isNext other isField]
            exact same other (by simp [isField, absent])

end

/-! ## Kinds -/

theorem typeField_eq_text_iff
    {pairs : List (Value × Value)} {tag : String} :
    typeField pairs = .text tag ↔ Value.get? "type" pairs = some (.string tag) ∧ tag ≠ "" := by
  rw [typeField]
  cases Value.get? "type" pairs with
  | none => simp
  | some value =>
      cases value with
      | string text =>
          by_cases isEmpty : text = ""
          · subst isEmpty
            constructor
            · intro isTag
              cases isTag
            · rintro ⟨⟨⟩, notEmpty⟩
              exact absurd rfl notEmpty
          · simp only [String.isEmpty_iff, isEmpty, if_false, TypeField.text.injEq,
              Option.some.injEq, Value.string.injEq]
            constructor
            · rintro rfl
              exact ⟨rfl, isEmpty⟩
            · exact And.left
      | _ => simp

end Chronicle.Yaml.Shape
