/-
PackageRelease/Proofs/Run/Course.lean

What can be seen of a course, and what cannot.

Most of what happens in a run is quiet: notes in the log, and requests that
the service reads.  The machine, the upload tool and the output see nothing of
it.  The log tells of every step of the machine and of no other, as long as no
note claims to be a step (`filter_log`).  A state guards a kind of happenings
if nothing of that kind happens before the state is entered.
-/
import PackageRelease.Proofs.Run.Record
import PackageRelease.Run.Attempt

namespace PackageRelease

/-! ### Quiet courses -/

/-- The happening is seen neither by the machine nor by the upload tool nor in the output, and it
is no note of a step. -/
def Happening.IsQuiet : Happening → Prop
  | note event => event.message ≠ Event.stepMessage
  | request _ => True
  | _ => False

namespace Course

/-- All that happens is quiet. -/
def IsQuiet (course : Course) : Prop := ∀ h ∈ course, h.IsQuiet

variable {course first second : Course}

theorem isQuiet_nil : IsQuiet [] := nofun

theorem isQuiet_cons {h : Happening} {rest : Course} :
    IsQuiet (h :: rest) ↔ h.IsQuiet ∧ rest.IsQuiet := List.forall_mem_cons

theorem isQuiet_append : IsQuiet (first ++ second) ↔ first.IsQuiet ∧ second.IsQuiet :=
  List.forall_mem_append

/-- Whoever sees nothing of what is quiet sees nothing of a quiet course. -/
theorem IsQuiet.filterMap_eq_nil {β : Type} {view : Happening → Option β} (quiet : course.IsQuiet)
    (blind : ∀ h : Happening, h.IsQuiet → view h = none) : course.filterMap view = [] :=
  List.filterMap_eq_nil_iff.2 fun h mem => blind h (quiet h mem)

theorem IsQuiet.steps_eq_nil (quiet : course.IsQuiet) : course.steps = [] := by
  refine quiet.filterMap_eq_nil fun h h_quiet => ?_
  cases h with
  | step => exact h_quiet.elim
  | _ => rfl

theorem IsQuiet.targets_eq_nil (quiet : course.IsQuiet) : course.targets = [] := by
  simp [targets, quiet.steps_eq_nil]

theorem IsQuiet.calls_eq_nil (quiet : course.IsQuiet) : course.calls = [] := by
  refine quiet.filterMap_eq_nil fun h h_quiet => ?_
  cases h with
  | call => exact h_quiet.elim
  | _ => rfl

theorem IsQuiet.lines_eq_nil (quiet : course.IsQuiet) : course.lines = [] := by
  refine quiet.filterMap_eq_nil fun h h_quiet => ?_
  cases h with
  | line => exact h_quiet.elim
  | _ => rfl

end Course

/-! ### Steps in the log -/

/-- The happening is no note that claims to be a step. -/
def Happening.IsHonest : Happening → Prop
  | note event => event.message ≠ Event.stepMessage
  | _ => True

namespace Course

/-- No note claims to be a step. -/
def IsHonest (course : Course) : Prop := ∀ h ∈ course, h.IsHonest

variable {course first second : Course}

theorem IsQuiet.isHonest (quiet : course.IsQuiet) : course.IsHonest := by
  intro h mem
  cases h with
  | note event => exact quiet _ mem
  | _ => trivial

@[simp] theorem isHonest_nil : IsHonest [] := nofun

@[simp] theorem isHonest_cons {h : Happening} {rest : Course} :
    IsHonest (h :: rest) ↔ h.IsHonest ∧ rest.IsHonest := List.forall_mem_cons

@[simp] theorem isHonest_append :
    IsHonest (first ++ second) ↔ first.IsHonest ∧ second.IsHonest := List.forall_mem_append

/-- The log of an honest course tells of its steps, each with the state that it starts from. -/
theorem filter_log (honest : course.IsHonest) (state : State) :
    (course.log state).filter (·.message = Event.stepMessage)
      = (Machine.transitionsFrom state course.steps).map fun t => .stepTaken t.source t.target := by
  induction course generalizing state with
  | nil => rfl
  | cons h rest ih =>
    obtain ⟨h_honest, rest_honest⟩ := isHonest_cons.1 honest
    cases h with
    | step step => simp [log, Machine.transitionsFrom, ih rest_honest, Event.stepTaken]
    | note event =>
      have apart : event.message ≠ Event.stepMessage := h_honest
      simp [log, apart, ih rest_honest]
    | line text writing =>
      have apart (reason : String) : (Event.outputLost reason).message ≠ Event.stepMessage := by
        show "could not write release output" ≠ Event.stepMessage
        decide
      rcases lost : writing.reason? with - | reason <;>
        simp [log, lost, apart, ih rest_honest]
    | _ => simp [log, ih rest_honest]

/-! ### Guards -/

/-- What happens of a kind happens after the state has been entered. -/
def Guards (state : State) (kind : Happening → Prop) (course : Course) : Prop :=
  ∀ (before : Course) h after, course = before ++ h :: after → kind h → state ∈ before.targets

variable {state : State} {kind : Happening → Prop}

theorem Guards.of_forall_not (free : ∀ h ∈ course, ¬ kind h) : Guards state kind course := by
  rintro before h after rfl is_kind
  exact absurd is_kind (free h (List.mem_append_right _ List.mem_cons_self))

/-- There is nothing to guard against where nothing of the kind is seen. -/
theorem Guards.of_filterMap_eq_nil {β : Type} {view : Happening → Option β}
    (unseen : course.filterMap view = []) : Guards state (fun h => (view h).isSome) course := by
  apply Guards.of_forall_not
  intro h mem
  rw [List.filterMap_eq_nil_iff.1 unseen h mem]
  exact nofun

/-- A state guards all that happens once it is entered. -/
theorem Guards.of_step {step : Step} (apart : ¬ kind (.step step)) (rest : Course) :
    Guards step.target kind (.step step :: rest) := by
  intro before h after eq is_kind
  rcases before with - | ⟨first, before⟩
  · obtain ⟨rfl, -⟩ := List.cons.inj eq
    exact absurd is_kind apart
  · obtain ⟨rfl, -⟩ := List.cons.inj eq
    simp

/-- The state need not guard the second course where the first one has entered it. -/
theorem Guards.append (guarded : Guards state kind first)
    (guarded' : state ∉ first.targets → Guards state kind second) :
    Guards state kind (first ++ second) := by
  intro before h after eq is_kind
  rcases List.append_eq_append_iff.1 eq with ⟨between, rfl, eq'⟩ | ⟨between, rfl, eq'⟩
  · -- `h` happens in the second course
    by_cases entered : state ∈ first.targets
    · rw [targets_append]
      exact List.mem_append_left _ entered
    · rw [targets_append]
      exact List.mem_append_right _ (guarded' entered between h after eq' is_kind)
  · rcases between with - | ⟨h', between⟩
    · -- `h` is the first thing to happen in the second course
      rw [List.append_nil] at guarded'
      apply Decidable.byContradiction
      intro entered
      exact absurd (guarded' entered [] h after eq'.symm is_kind) List.not_mem_nil
    · obtain ⟨rfl, -⟩ := List.cons.inj eq'
      exact guarded before h between rfl is_kind

theorem Guards.cons {h : Happening} (apart : ¬ kind h) (guarded : Guards state kind course) :
    Guards state kind (h :: course) := by
  show Guards state kind ([h] ++ course)
  apply Guards.append
  · exact .of_forall_not (by simpa using apart)
  · exact fun _ => guarded

end Course

end PackageRelease
