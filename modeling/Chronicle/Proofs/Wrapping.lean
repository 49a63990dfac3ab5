import Chronicle.Fault

/-!
# Faults in contexts

A fault may be wrapped in any number of contexts.  They come before the contexts
that it has already, and the fault at the root stays the same.
-/

namespace Chronicle.Fault

/-- The fault in further contexts, the outermost first. -/
def wrapped (texts : List String) (fault : Fault) : Fault :=
  texts.foldr context fault

section

variable (texts further : List String) (fault : Fault)

@[simp]
theorem wrapped_nil : fault.wrapped [] = fault := rfl

@[simp]
theorem wrapped_cons (text : String) :
    fault.wrapped (text :: texts) = .context text (fault.wrapped texts) := rfl

theorem wrapped_append :
    fault.wrapped (texts ++ further) = (fault.wrapped further).wrapped texts :=
  List.foldr_append ..

@[simp]
theorem root_wrapped : (fault.wrapped texts).root = fault.root := by
  induction texts with
  | nil => rfl
  | cons text rest inductionHypothesis => rw [wrapped_cons, root, inductionHypothesis]

@[simp]
theorem contexts_wrapped : (fault.wrapped texts).contexts = texts ++ fault.contexts := by
  induction texts with
  | nil => rfl
  | cons text rest inductionHypothesis =>
      rw [wrapped_cons, contexts, inductionHypothesis, List.cons_append]

end

end Chronicle.Fault
