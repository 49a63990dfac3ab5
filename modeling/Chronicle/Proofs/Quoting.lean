import Chronicle.Parameter.Definition
import Chronicle.Proofs.Content.Descent

/-!
# IDs in faults

A fault shows which entry could not be decoded: its ID stands in the text in
quotes, and so do the IDs of all entries around it.  An unknown type is the
exception, of which only the type is shown.
-/

namespace Chronicle

open Yaml (Value)

/-! ## IDs in texts -/

def quoted (id : String) : String :=
  "'" ++ id ++ "'"

/-- The ID stands in quotes somewhere in the text. -/
def Quotes (text id : String) : Prop :=
  (quoted id).toList <:+: text.toList

instance (text id : String) : Decidable (Quotes text id) :=
  inferInstanceAs (Decidable (_ <:+: _))

theorem Quotes.append_left
    {text id : String}
    (quotes : Quotes text id) (before : String) :
    Quotes (before ++ text) id := by
  rw [Quotes, String.toList_append]
  exact List.infix_append_of_infix_right quotes

theorem Quotes.append_right
    {text id : String}
    (quotes : Quotes text id) (after : String) :
    Quotes (text ++ after) id := by
  rw [Quotes, String.toList_append]
  exact List.infix_append_of_infix_left quotes

theorem quotes_label (kind id : String) : Quotes (label kind id) id := by
  have split : label kind id = kind ++ " " ++ quoted id := by
    simp only [label, quoted, toString, String.append_assoc]
    rfl
  have inQuotes : Quotes (quoted id) id := List.infix_rfl
  exact split ▸ inQuotes.append_left (kind ++ " ")

namespace Fault

/-! ## IDs in faults -/

/-- The message or a context of the fault quotes the ID. -/
def Names (fault : Fault) (id : String) : Prop :=
  Quotes fault.message id ∨ ∃ text ∈ fault.contexts, Quotes text id

section

variable {id : String} {fault : Fault}

theorem names_context (kind : String) :
    (context (label kind id) fault).Names id :=
  Or.inr ⟨label kind id, List.mem_cons_self .., quotes_label kind id⟩

theorem names_bare
    {cause : LoadCause}
    (quotes : Quotes cause.message id) :
    (bare cause).Names id :=
  Or.inl (quotes.append_left "load error: ")

theorem names_of_mem
    {text : String} {texts : List String}
    (member : text ∈ texts)
    (quotes : Quotes text id) :
    (fault.wrapped texts).Names id := by
  refine Or.inr ⟨text, ?_, quotes⟩
  rw [contexts_wrapped]
  exact List.mem_append_left _ member

theorem Names.wrapped
    (names : fault.Names id) (texts : List String) :
    (fault.wrapped texts).Names id := by
  rcases names with inMessage | ⟨text, member, quotes⟩
  · left
    induction texts with
    | nil => exact inMessage
    | cons text rest inductionHypothesis => exact inductionHypothesis.append_left _
  · refine Or.inr ⟨text, ?_, quotes⟩
    rw [contexts_wrapped]
    exact List.mem_append_right _ member

end

end Fault

/-! ## Types

The types of entries and of parameters are read alike. -/

open Yaml.Shape (typeField)

def kindUnder {α : Type} (subject : Subject) (item : String) (ofTag? : String → Option α)
    (pairs : List (Value × Value)) : Except Fault α :=
  match typeField pairs with
  | .missing => .error (.bare (.missingType item))
  | .other value => .error (.bare (.typeNotText item value))
  | .text tag =>
      match ofTag? tag with
      | some kind => .ok kind
      | none => .error (.unknownType subject tag)

theorem Content.kindOf_eq_kindUnder (id : String) (pairs : List (Value × Value)) :
    kindOf id pairs = kindUnder .content (itemLabel id) Kind.ofTag? pairs := by
  rw [kindOf, kindUnder]
  cases typeField pairs with
  | text tag => cases found : Kind.ofTag? tag <;> simp only [found]
  | _ => rfl

theorem Parameter.Definition.kindOf_eq_kindUnder (id : String) (pairs : List (Value × Value)) :
    kindOf id pairs = kindUnder .parameter (itemLabel id) Kind.ofTag? pairs := by
  rw [kindOf, kindUnder]
  cases typeField pairs with
  | text tag => cases found : Kind.ofTag? tag <;> simp only [found]
  | _ => rfl

/-- The value has a type, but there is no such kind. -/
inductive UnknownType {α : Type} (subject : Subject) (ofTag? : String → Option α) :
    Value → Fault → Prop
  | intro {pairs : List (Value × Value)} {tag : String}
      (isTag : typeField pairs = .text tag)
      (unknown : ofTag? tag = none) :
      UnknownType subject ofTag? (.mapping pairs) (.unknownType subject tag)

theorem named_of_kindUnder
    {α : Type} {subject : Subject} {ofTag? : String → Option α} {kind id : String}
    {pairs : List (Value × Value)} {fault : Fault}
    (noKind : kindUnder subject (label kind id) ofTag? pairs = .error fault) :
    fault.Names id ∨ UnknownType subject ofTag? (.mapping pairs) fault := by
  rw [kindUnder] at noKind
  split at noKind
  · cases noKind
    exact Or.inl (Fault.names_bare ((quotes_label ..).append_right _))
  · cases noKind
    exact Or.inl (Fault.names_bare (((quotes_label ..).append_right _).append_right _))
  · rename_i tag isTag
    split at noKind
    · cases noKind
    · rename_i unknown
      cases noKind
      exact Or.inr (.intro isTag unknown)

/-! ## Entries and parameters -/

namespace Content

section

variable {id : String} {value : Value} {fault : Fault}

/-- An entry at fault is named, unless its type is unknown. -/
theorem EntryFault.named
    (entryFault : EntryFault id value fault) :
    fault.Names id ∨ UnknownType .content Kind.ofTag? value fault := by
  cases entryFault with
  | notMapping => exact Or.inl (Fault.names_bare ((quotes_label ..).append_right _))
  | kind noKind => exact named_of_kindUnder (kindOf_eq_kindUnder .. ▸ noKind)
  | fields _ noFields =>
      rw [ownEntry] at noFields
      split at noFields
      · cases noFields
      · cases noFields
        exact Or.inl (Fault.names_context "content entry")
  | content => exact Or.inl (Fault.names_context "content entry")

/-- The entry that a step leaves is named in the labels of a way. -/
theorem names_turn
    {turn : Turn} {turns : List Turn}
    (member : turn ∈ turns) :
    (fault.wrapped (labels turns)).Names turn.id :=
  Fault.names_of_mem (List.mem_flatMap.mpr ⟨turn, member, List.mem_cons_self ..⟩)
    (quotes_label "content entry" turn.id)

end

end Content

theorem Parameter.Definition.named_of_decode
    {id : String} {value : Value} {fault : Fault}
    (failed : decode id value = .error fault) :
    fault.Names id ∨ UnknownType .parameter Kind.ofTag? value fault := by
  cases value with
  | mapping pairs =>
      rw [decode] at failed
      rcases bind_eq_error_iff.mp failed with noKind | ⟨kind, _, failed⟩
      · exact named_of_kindUnder (kindOf_eq_kindUnder .. ▸ noKind)
      · dsimp only at failed
        split at failed
        · cases failed
        · cases failed
          exact Or.inl (Fault.names_context "parameter")
  | _ =>
      cases failed
      exact Or.inl (Fault.names_bare ((quotes_label ..).append_right _))

/-- An entry that cannot be decoded fails at some entry, itself or one below it.
The fault names all entries on the way down, and the entry at fault unless its
type is unknown.  A parameter is named as well, with the same exception. -/
theorem decoding_failure_named
    (id : String) (value : Value) (fault : Fault) :
    (Content.decode id value = .error fault →
      ∃ turns place culpritId culprit own,
        Content.Way Record.Reached id value turns place culpritId culprit ∧
        Content.decode culpritId culprit = .error own ∧
        Content.EntryFault culpritId culprit own ∧
        fault = own.wrapped (Content.labels turns) ∧
        (∀ turn ∈ turns, fault.Names turn.id) ∧
        (fault.Names culpritId ∨ UnknownType .content Content.Kind.ofTag? culprit own)) ∧
    (Parameter.Definition.decode id value = .error fault →
      fault.Names id ∨ UnknownType .parameter Parameter.Kind.ofTag? value fault) := by
  constructor
  · intro failed
    obtain ⟨turns, place, culpritId, culprit, own, way, culpritFailed, entryFault, rfl⟩ :=
      Content.exists_culprit failed
    refine ⟨turns, place, culpritId, culprit, own, way, culpritFailed, entryFault, rfl, ?_, ?_⟩
    · intro turn member
      exact Content.names_turn member
    · rcases entryFault.named with names | unknownType
      · exact Or.inl (names.wrapped _)
      · exact Or.inr unknownType
  · intro failed
    exact Parameter.Definition.named_of_decode failed

/-- A logo of an unknown shape, and a year with an unknown field. -/
theorem decoding_failure_named_banner :
    (∃ fault, Content.decode "banner" (Content.banner "circle") = .error fault ∧
      fault.message = "content entry 'banner': content entry 'seal': choice 'Sea': " ++
        "unknown content type 'circle'" ∧
      ∃ turns culpritId culprit own,
        fault = Fault.wrapped (Content.labels turns) own ∧
        (∀ turn ∈ turns, fault.Names turn.id) ∧
        (fault.Names culpritId ∨ UnknownType .content Content.Kind.ofTag? culprit own)) ∧
    ∃ fault, Parameter.Definition.decode "year" (.mapping
        [(.string "type", .string "text"), (.string "choices", .null)]) = .error fault ∧
      fault.Names "year" := by
  constructor
  · obtain ⟨ofEntry, _⟩ := decoding_failure_named "banner" (Content.banner "circle")
      (Fault.wrapped ["content entry 'banner'", "content entry 'seal'", "choice 'Sea'"]
        (.unknownType .content "circle"))
    obtain ⟨turns, _, culpritId, culprit, own, _, _, _, same, around, named⟩ := ofEntry rfl
    exact ⟨_, rfl, by decide +kernel, turns, culpritId, culprit, own, same, around, named⟩
  · obtain ⟨_, ofParameter⟩ := decoding_failure_named "year" (.mapping
      [(.string "type", .string "text"), (.string "choices", .null)])
      (.context "parameter 'year'" (.bare (.mismatch (.unknownField "choices"
        ["description", "example", "group"]))))
    rcases ofParameter rfl with names | unknownType
    · exact ⟨_, rfl, names⟩
    · cases unknownType

/-- Of an unknown type the fault shows only the type: neither an entry nor a
parameter is named, and of nested entries only those around it. -/
theorem unknown_type_unnamed :
    (∃ fault, Content.decode "logo" (.mapping [(.string "type", .string "circle")]) =
        .error fault ∧ ¬ fault.Names "logo") ∧
    (∃ fault, Content.decode "banner" (Content.banner "circle") = .error fault ∧
        fault.Names "seal" ∧ ¬ fault.Names "logo") ∧
    ∃ fault, Parameter.Definition.decode "year" (.mapping [(.string "type", .string "number")]) =
        .error fault ∧ ¬ fault.Names "year" := by
  refine ⟨⟨_, rfl, ?_⟩, ⟨_, rfl, ?_, ?_⟩, _, rfl, ?_⟩ <;> rw [Fault.Names] <;> decide +kernel

end Chronicle
