/-
PackageRelease/Proofs/Run/Record.lean

What a machine has on record after some steps.

A machine adds one transition for each step, from the state it is in to the
state that the step leads to, and changes nothing that is on record.  So the
sources of the transitions are their targets, one place later:

    sources = start :: targets, without the last one

and the last error is the message of the last failure among the steps.  That a
step leads to `failed` does not make it a failure.  `takeAll_record` says all of
this of a machine that is new.
-/
import PackageRelease.Run.Machine

namespace PackageRelease

/-- The failure that the step ends with. -/
@[simp] def Step.failure? : Step → Option Failure
  | moved _ _ => none
  | failed failure => some failure

namespace Machine

/-! ### Transitions -/

/-- The transitions of some steps that start in a state. -/
def transitionsFrom (state : State) : List Step → List Transition
  | [] => []
  | step :: rest => ⟨state, step.target, step.detail⟩ :: transitionsFrom step.target rest

variable (machine : Machine) (state : State) (steps first second : List Step)

/-- The record grows by the transitions of the steps. -/
theorem transitions_takeAll :
    (machine.takeAll steps).transitions
      = machine.transitions ++ transitionsFrom machine.state steps := by
  induction steps generalizing machine with
  | nil => simp [transitionsFrom]
  | cons step steps ih => simp [ih, take, transitionsFrom]

@[simp] theorem map_target_transitionsFrom :
    (transitionsFrom state steps).map (·.target) = steps.map Step.target := by
  induction steps generalizing state with
  | nil => rfl
  | cons step steps ih => simp [transitionsFrom, ih]

/-- Each transition starts where the one before it has led to. -/
theorem map_source_transitionsFrom :
    (transitionsFrom state steps).map (·.source) = (state :: steps.map Step.target).dropLast := by
  induction steps generalizing state with
  | nil => rfl
  | cons step steps ih => simp [transitionsFrom, ih]

/-- Each transition bears the note of its step. -/
theorem map_target_detail_transitionsFrom :
    (transitionsFrom state steps).map (fun t => (t.target, t.detail))
      = steps.map fun step => (step.target, step.detail) := by
  induction steps generalizing state with
  | nil => rfl
  | cons step steps ih => simp [transitionsFrom, ih]

@[simp] theorem length_transitionsFrom : (transitionsFrom state steps).length = steps.length := by
  rw [← List.length_map, map_target_transitionsFrom, List.length_map]

theorem transitionsFrom_append :
    transitionsFrom state (first ++ second)
      = transitionsFrom state first ++
          transitionsFrom (((first.map Step.target).getLast?).getD state) second := by
  induction first generalizing state with
  | nil => rfl
  | cons step first ih =>
    rw [List.cons_append, transitionsFrom, transitionsFrom, ih, List.cons_append]
    cases first <;> simp [List.getLast?_cons]

/-! ### State and last error -/

theorem state_takeAll :
    (machine.takeAll steps).state = ((steps.map Step.target).getLast?).getD machine.state := by
  induction steps generalizing machine with
  | nil => rfl
  | cons step steps ih =>
    rw [takeAll_cons, ih]
    cases steps <;> simp [take, List.getLast?_cons]

/-- The last error is that of the last failure, or what it has been if there was none. -/
theorem lastError_takeAll :
    (machine.takeAll steps).lastError
      = ((steps.filterMap Step.failure?).getLast?.map Failure.message).or machine.lastError := by
  induction steps generalizing machine with
  | nil => simp
  | cons step steps ih =>
    rw [takeAll_cons, ih]
    cases step with
    | moved target detail => simp [take]
    | failed failure =>
      rcases last : (steps.filterMap Step.failure?).getLast? with - | failure' <;>
        simp [take, List.getLast?_cons, last]

/-! ### New machines -/

/-- **A machine keeps a faithful record of all that is asked of it.**  It has one transition for
each step, in order, to the state that the step asks for and with its note; a step that fails goes
to `failed` with the code of the failure.  The first transition starts from `start`, and each one
after it from where the one before it has led to; the machine is where the last one has led to.
What was on record after the first of the steps is on record still, in the same place.  The last
error is the message of the last step that has failed, whatever steps were taken after it. -/
theorem takeAll_record (steps : List Step) :
    let machine := takeAll {} steps
    machine.transitions.map (fun t => (t.target, t.detail))
      = steps.map (fun
          | .moved target detail => (target, detail)
          | .failed failure => (.failed, some failure.code)) ∧
    machine.transitions.map (·.source)
      = (.start :: machine.transitions.map (·.target)).dropLast ∧
    machine.state = ((machine.transitions.map (·.target)).getLast?).getD .start ∧
    (∀ first second, steps = first ++ second →
      (takeAll {} first).transitions = machine.transitions.take first.length) ∧
    machine.lastError = (steps.filterMap Step.failure?).getLast?.map Failure.message := by
  intro machine
  -- a new machine has nothing on record, so the steps make up all of the record
  have recorded (steps : List Step) :
      (takeAll {} steps).transitions = transitionsFrom .start steps := transitions_takeAll {} steps
  refine ⟨?_, ?_, ?_, ?_, ?_⟩
  · rw [recorded, map_target_detail_transitionsFrom]
    apply List.map_congr_left
    rintro (⟨target, detail⟩ | failure) _
    · rfl
    · rfl
  · rw [recorded, map_source_transitionsFrom, map_target_transitionsFrom]
  · rw [recorded, map_target_transitionsFrom]
    exact state_takeAll {} steps
  · rintro first second rfl
    rw [recorded, recorded, transitionsFrom_append, List.take_left' (length_transitionsFrom _ _)]
  · rw [lastError_takeAll]
    exact Option.or_none

-- Going to `failed` is no failure, and leaves the message of the failure before it.
example :
    (takeAll {} [.failed (.missingCredential "PROD_PWD"), .moved .failed none]).lastError
      = some "Missing password env var PROD_PWD" := by
  rfl

end Machine

end PackageRelease
