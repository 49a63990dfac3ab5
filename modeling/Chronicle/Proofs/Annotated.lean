import Chronicle.Record
import Chronicle.Proofs.Outcome
import Chronicle.Proofs.Wrapping

/-!
# Annotated faults

On its way up a fault is told the file that it arose in and is wrapped in
contexts, any number of times and in any order.  A load fault without a locator
takes the first one if nothing comes before it.  Every other note is one more
context, and the fault at the root stays as it is.
-/

namespace Chronicle.Fault

/-! ## Notes -/

/-- What a fault is told on its way up. -/
inductive Note
  | locator (locator : String)
  | context (text : String)
  deriving DecidableEq, Repr

/-- The text of the context that a note becomes. -/
def Note.text : Note → String
  | .locator file => s!"in '{file}'"
  | .context label => label

def annotate (fault : Fault) : Note → Fault
  | .locator locator => fault.atLocator locator
  | .context text => .context text fault

/-- The fault behind all notes, the first of them applied first. -/
def annotated (notes : List Note) (fault : Fault) : Fault :=
  notes.foldl annotate fault

/-! ## Views of the root -/

inductive Kind
  | load
  | duplicate
  | unknownType
  | inheritance
  | validation
  | notFound
  | unreadable
  | refused
  deriving DecidableEq, Repr

def kind : Fault → Kind
  | .load .. => .load
  | .duplicate .. => .duplicate
  | .unknownType .. => .unknownType
  | .inheritance _ => .inheritance
  | .validation _ => .validation
  | .notFound .. => .notFound
  | .unreadable .. => .unreadable
  | .refused _ => .refused
  | .context _ inner => kind inner

/-- The locator that the root has. -/
def locator? : Fault → Option String
  | .load _ locator _ => locator
  | .context _ inner => locator? inner
  | _ => none

/-- The place in the text of its file that the root points to. -/
def offset? : Fault → Option Nat
  | .load _ _ offset => offset
  | .context _ inner => offset? inner
  | _ => none

section

variable (fault : Fault)

@[simp]
theorem offset?_wrapped (texts : List String) : (fault.wrapped texts).offset? = fault.offset? := by
  induction texts with
  | nil => rfl
  | cons text rest inductionHypothesis => rw [wrapped_cons, offset?, inductionHypothesis]

theorem offset?_root : fault.root.offset? = fault.offset? := by
  induction fault with
  | context _ _ inductionHypothesis => exact inductionHypothesis
  | _ => rfl

/-- The text of a wrapped fault is the texts of its contexts and of the fault
itself, joined by colons. -/
theorem message_wrapped (texts : List String) :
    (fault.wrapped texts).message = ": ".intercalate (texts ++ [fault.message]) := by
  induction texts with
  | nil => exact String.intercalate_singleton.symm
  | cons text rest inductionHypothesis =>
      have notLast : rest ++ [fault.message] ≠ [] := by simp
      rw [wrapped_cons, List.cons_append, String.intercalate_cons_of_ne_nil notLast,
        ← inductionHypothesis]
      rfl

/-! ## One note -/

/-- The fault can take a locator: it is a load fault that has none. -/
def Unlocated : Prop :=
  ∃ cause offset, fault = .load cause none offset

end

section

variable {fault : Fault}

/-- Every fault of the decoder can take a locator. -/
theorem unlocated_of_ofYaml
    {text : String}
    (failed : Record.ofYaml text = .error fault) :
    fault.Unlocated := by
  rw [Record.ofYaml] at failed
  split at failed
  · cases failed
  · dsimp only at failed
    split at failed
    · cases failed
    · cases failed
      exact ⟨_, _, rfl⟩

theorem not_unlocated_context (text : String) : ¬ (context text fault).Unlocated := by
  rintro ⟨_, _, ⟨⟩⟩

/-- Whatever cannot take a locator is wrapped. -/
theorem annotate_of_not_unlocated
    (settled : ¬ fault.Unlocated) (note : Note) :
    fault.annotate note = .context note.text fault := by
  cases note with
  | context text => rfl
  | locator locator =>
      cases fault with
      | load cause known offset =>
          cases known with
          | none => exact absurd ⟨cause, offset, rfl⟩ settled
          | some other => rfl
      | _ => rfl

/-! ## All notes -/

/-- From then on every note is a context, the last one outermost. -/
theorem annotated_of_not_unlocated
    (settled : ¬ fault.Unlocated) (notes : List Note) :
    fault.annotated notes = fault.wrapped (notes.map Note.text).reverse := by
  induction notes generalizing fault with
  | nil => rfl
  | cons first later inductionHypothesis =>
      have step : fault.annotated (first :: later) = (fault.annotate first).annotated later := rfl
      rw [step, annotate_of_not_unlocated settled,
        inductionHypothesis (not_unlocated_context first.text), List.map_cons, List.reverse_cons,
        wrapped_append]
      rfl

/-- The locator that a load fault is told first is its own, and the later notes
are contexts. -/
theorem annotated_of_locator_first
    (cause : LoadCause) (offset : Option Nat) (locator : String) (later : List Note) :
    (load cause none offset).annotated (.locator locator :: later) =
      (load cause (some locator) offset).wrapped (later.map Note.text).reverse := by
  have settled : ¬ (load cause (some locator) offset).Unlocated := by
    rintro ⟨_, _, ⟨⟩⟩
  exact annotated_of_not_unlocated settled later

/-- A load fault takes no locator that something else comes before. -/
theorem annotated_of_context_first
    (text : String) (later : List Note) :
    fault.annotated (.context text :: later) =
      fault.wrapped ((Note.context text :: later).map Note.text).reverse := by
  have step : fault.annotated (.context text :: later) =
      (context text fault).annotated later := rfl
  rw [step, annotated_of_not_unlocated (not_unlocated_context text), List.map_cons,
    List.reverse_cons, wrapped_append]
  rfl

/-- Annotations never change the root of a fault, except that a load fault
without a locator takes the one that it is told first.  All other notes are
contexts, the last one outermost, and the whole text is that of the contexts and
the root.  So the kind, the text and the offset of the root are kept, and a
locator that it has is never replaced. -/
theorem annotation_exact
    (noContext : ∀ text inner, fault ≠ .context text inner)
    (notes : List Note) :
    (∀ cause offset locator later,
      fault = .load cause none offset → notes = .locator locator :: later →
      (fault.annotated notes).root = .load cause (some locator) offset ∧
        (fault.annotated notes).contexts = (later.map Note.text).reverse) ∧
    ((¬ ∃ cause offset locator later,
      fault = .load cause none offset ∧ notes = .locator locator :: later) →
      (fault.annotated notes).root = fault ∧
        (fault.annotated notes).contexts = (notes.map Note.text).reverse) ∧
    (fault.annotated notes).message =
      ": ".intercalate
        ((fault.annotated notes).contexts ++ [(fault.annotated notes).root.message]) ∧
    (fault.annotated notes).root.kind = fault.kind ∧
    (fault.annotated notes).root.message = fault.message ∧
    (fault.annotated notes).root.offset? = fault.offset? ∧
    ∀ locator, fault.locator? = some locator →
      (fault.annotated notes).root.locator? = some locator := by
  have isRoot : fault.root = fault := by
    cases fault with
    | context text inner => exact absurd rfl (noContext text inner)
    | _ => rfl
  have noneAround : fault.contexts = [] := by
    cases fault with
    | context text inner => exact absurd rfl (noContext text inner)
    | _ => rfl
  by_cases takes : ∃ cause offset locator later,
      fault = .load cause none offset ∧ notes = .locator locator :: later
  · obtain ⟨cause, offset, locator, later, rfl, rfl⟩ := takes
    rw [annotated_of_locator_first]
    simp only [root_wrapped, contexts_wrapped, message_wrapped]
    refine ⟨?_, fun unable => absurd ⟨_, _, _, _, rfl, rfl⟩ unable, ?_, rfl, rfl, rfl, ?_⟩
    · rintro _ _ _ _ ⟨⟩ ⟨⟩
      exact ⟨rfl, List.append_nil _⟩
    · simp only [root, contexts, List.append_nil]
    · rintro _ ⟨⟩
  · have wraps : fault.annotated notes =
        fault.wrapped (notes.map Note.text).reverse := by
      by_cases unlocated : fault.Unlocated
      · obtain ⟨cause, offset, rfl⟩ := unlocated
        cases notes with
        | nil => rfl
        | cons first later =>
            cases first with
            | locator locator => exact absurd ⟨_, _, _, _, rfl, rfl⟩ takes
            | context text => exact annotated_of_context_first text later
      · exact annotated_of_not_unlocated unlocated notes
    rw [wraps]
    simp only [root_wrapped, contexts_wrapped, message_wrapped, isRoot, noneAround,
      List.append_nil, true_and, and_true, implies_true]
    refine ⟨?_, fun _ known => known⟩
    intro cause offset locator later isLoad isFirst
    exact absurd ⟨cause, offset, locator, later, isLoad, isFirst⟩ takes

/-- A load fault that is told two files, with a context between them. -/
theorem annotation_exact_twoFiles :
    (∀ text inner, bare .missingId ≠ .context text inner) ∧
      ((bare .missingId).annotated
          [.locator "season1/s1-01.yml", .context "season", .locator "library.yml"]).root =
        .load .missingId (some "season1/s1-01.yml") none ∧
      ((bare .missingId).annotated
          [.locator "season1/s1-01.yml", .context "season", .locator "library.yml"]).contexts =
        ["in 'library.yml'", "season"] ∧
      ((bare .missingId).annotated
          [.locator "season1/s1-01.yml", .context "season", .locator "library.yml"]).message =
        "in 'library.yml': season: load error: template does not contain an ID" := by
  have noContext : ∀ text inner, bare .missingId ≠ .context text inner := by
    rintro _ _ ⟨⟩
  obtain ⟨takes, _, joined, _⟩ := annotation_exact noContext
    [.locator "season1/s1-01.yml", .context "season", .locator "library.yml"]
  obtain ⟨root, contexts⟩ := takes _ _ _ _ rfl rfl
  refine ⟨noContext, root, contexts, ?_⟩
  rw [joined, root, contexts]
  decide +kernel

end

end Chronicle.Fault
