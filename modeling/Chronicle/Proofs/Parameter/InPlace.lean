import Chronicle.Parameter.Store

/-!
# Processing in place

Processing as steps that change the arguments while they go on: a parameter sets
its keys one after the other, and a fault leaves what was set before it.  Within
one parameter nothing is set before its argument is accepted, so the steps
amount to processing as it is defined.
-/

namespace Chronicle.Parameter

/-! ## Steps -/

/-- Checks that change the arguments as they go on.  A fault keeps the changes
made before it. -/
abbrev Steps := ExceptT Fault (StateM Arguments) Unit

namespace Steps

/-- The arguments as the steps leave them, and how the steps end. -/
def outcome (steps : Steps) (arguments : Arguments) : Arguments × Except Fault Unit :=
  (Id.run (StateT.run (ExceptT.run steps) arguments)).swap

/-- Goes on after an ending without a fault. -/
def onward (next : Arguments → Arguments × Except Fault Unit) :
    Arguments × Except Fault Unit → Arguments × Except Fault Unit
  | (changed, .ok ()) => next changed
  | (left, .error fault) => (left, .error fault)

theorem outcome_get (next : Arguments → Steps) (arguments : Arguments) :
    Steps.outcome (get >>= next) arguments = (next arguments).outcome arguments := rfl

theorem outcome_adapt (steps : Steps) (wrap : Fault → Fault) (arguments : Arguments) :
    Steps.outcome (ExceptT.adapt wrap steps) arguments =
      ((steps.outcome arguments).1, (steps.outcome arguments).2.mapError wrap) := rfl

theorem outcome_bind (first next : Steps) (arguments : Arguments) :
    Steps.outcome (first >>= fun _ => next) arguments =
      onward next.outcome (first.outcome arguments) := by
  unfold outcome ExceptT.run StateT.run Id.run
  simp only [bind, ExceptT.bind, ExceptT.mk, StateT.bind, ExceptT.bindCont]
  cases first arguments with
  | mk ending changed => cases ending <;> rfl

end Steps

/-- How a check ends that changes the arguments only if it succeeds. -/
def settle (arguments : Arguments) : Except Fault Arguments → Arguments × Except Fault Unit
  | .ok processed => (processed, .ok ())
  | .error fault => (arguments, .error fault)

namespace Definition

/-- Checks the argument of the parameter, and then sets its normal form and what
follows from it, one key after the other. -/
def processSteps (definition : Definition) : Steps := do
  let arguments ← get
  match arguments.get? definition.id with
  | none => return ()
  | some value =>
      match definition.form with
      | .text => return ()
      | .societyId =>
          match SocietyId.ofText? value with
          | none => throw (.validation (.argumentNotSocietyId value))
          | some societyId =>
              modify fun arguments => arguments.set definition.id societyId.text
              modify fun arguments => arguments.set (playerKey definition.id) societyId.player
              modify fun arguments =>
                arguments.set (characterKey definition.id) societyId.character
      | .choice choices =>
          if choices.contains value then return ()
          else throw (.validation (.argumentNotChoice value choices))

theorem outcome_processSteps (definition : Definition) (arguments : Arguments) :
    definition.processSteps.outcome arguments =
      settle arguments (definition.process arguments) := by
  rw [processSteps, Steps.outcome_get, process]
  cases arguments.get? definition.id with
  | none => rfl
  | some value =>
      cases definition.form with
      | text => rfl
      | societyId =>
          dsimp only
          cases SocietyId.ofText? value with
          | none => rfl
          | some societyId => rfl
      | choice choices =>
          dsimp only
          cases choices.contains value with
          | true => rfl
          | false => rfl

end Definition

namespace Store

/-- Checks the argument with the given key. -/
def keySteps (store : Store) (key : String) : Steps :=
  ExceptT.adapt (Fault.context (label "argument" key)) <|
    match store.get? key with
    | none => throw (.validation .noParameter)
    | some definition => definition.processSteps

/-- Checks every argument that is given at the start, in order. -/
def processSteps (store : Store) : Steps := do
  let arguments ← get
  arguments.keys.forM store.keySteps

variable {store : Store}

theorem outcome_keySteps (keys : List String) (arguments : Arguments) :
    Steps.outcome (keys.forM store.keySteps) arguments = store.processKeys keys arguments := by
  induction keys generalizing arguments with
  | nil => rfl
  | cons key rest inductionHypothesis =>
      change Steps.outcome (store.keySteps key >>= fun _ => rest.forM store.keySteps) arguments = _
      rw [Steps.outcome_bind, keySteps, Steps.outcome_adapt, processKeys]
      cases store.get? key with
      | none => rfl
      | some definition =>
          dsimp only
          rw [Definition.outcome_processSteps]
          cases definition.process arguments with
          | error fault => rfl
          | ok processed => exact inductionHypothesis processed

/-- Processing is what the steps in place amount to. -/
theorem outcome_processSteps (store : Store) (arguments : Arguments) :
    store.processSteps.outcome arguments = store.process arguments := by
  rw [processSteps, Steps.outcome_get]
  exact outcome_keySteps arguments.keys arguments

end Store

end Chronicle.Parameter
