/-
PackageRelease/Proofs/Run/LostOutput.lean

Runs whose output is lost.

An output may refuse a line, or fail to pass it on, whenever it likes.  A run
takes no notice: with an output that takes every line it would have gone the
same way, line for line and step for step (`release_lossless`),

    release settings parts outside.lossless = (release settings parts outside).lossless

and what is seen of the loss is one warning in the log for each line that is
lost, in the place where the line was attempted:

    account    e₁  e₂  line  e₃  line' ...       what is logged or attempted
    log        e₁  e₂  lost  e₃                  `line` is lost and `line'` is not
               e₁  e₂        e₃                  no line is lost

The same holds for every run of a series (`run_unmoved_by_lost_output`).
-/
import PackageRelease.Proofs.Run.Effects

namespace PackageRelease

/-- The warnings that go to the log for a line. -/
def Writing.warnings : Writing → List Event
  | .done => []
  | .refused reason | .unflushed reason =>
    [⟨.warning, "could not write release output", [("error", reason)]⟩]

/-! ### Courses -/

/-- The happening with an output that takes every line. -/
def Happening.lossless : Happening → Happening
  | line text _ => line text .done
  | h => h

namespace Course

/-- The course with an output that takes every line. -/
def lossless (course : Course) : Course := course.map Happening.lossless

/-- The log of a course that starts in a state, with every line that is attempted in its place. -/
def account (state : State) : Course → List (Event ⊕ (String × Writing))
  | [] => []
  | .step step :: rest => .inl (.stepTaken state step.target) :: account step.target rest
  | .note event :: rest => .inl event :: account state rest
  | .line text writing :: rest => .inr (text, writing) :: account state rest
  | _ :: rest => account state rest

variable (course first second : Course) (state : State)

@[simp] theorem lossless_cons (h : Happening) :
    lossless (h :: course) = h.lossless :: course.lossless := rfl

@[simp] theorem lossless_append : (first ++ second).lossless = first.lossless ++ second.lossless :=
  List.map_append

/-- There is nothing to lose where no line is attempted. -/
theorem IsQuiet.lossless_eq {course : Course} (quiet : course.IsQuiet) :
    course.lossless = course := by
  have same (h : Happening) (mem : h ∈ course) : h.lossless = id h := by
    cases h with
    | line => exact (quiet _ mem).elim
    | _ => rfl
  rw [lossless, List.map_congr_left same, List.map_id]

/-- Whoever does not look at what becomes of a line sees no difference. -/
theorem filterMap_lossless {β : Type} {view : Happening → Option β}
    (blind : ∀ h : Happening, view h.lossless = view h) :
    course.lossless.filterMap view = course.filterMap view := by
  rw [lossless, List.filterMap_map]
  exact List.filterMap_congr fun h _ => blind h

theorem steps_lossless : course.lossless.steps = course.steps :=
  course.filterMap_lossless fun h => by cases h <;> rfl

theorem targets_lossless : course.lossless.targets = course.targets := by
  rw [targets, targets, steps_lossless]

theorem requests_lossless : course.lossless.requests = course.requests :=
  course.filterMap_lossless fun h => by cases h <;> rfl

theorem calls_lossless : course.lossless.calls = course.calls :=
  course.filterMap_lossless fun h => by cases h <;> rfl

/-- The same lines are attempted. -/
theorem lines_lossless :
    course.lossless.lines = course.lines.map fun line => (line.1, .done) := by
  rw [lines, lines, lossless, List.filterMap_map, List.map_filterMap]
  apply List.filterMap_congr
  rintro h -
  cases h <;> rfl

/-! ### The log -/

theorem filterMap_getRight?_account :
    (course.account state).filterMap Sum.getRight? = course.lines := by
  induction course generalizing state with
  | nil => rfl
  | cons h rest ih => cases h <;> simp [account, List.filterMap_cons, ih]

/-- The log has a warning for each line that is lost, in the place where it was attempted. -/
theorem log_eq_flatMap_account :
    course.log state
      = (course.account state).flatMap (Sum.elim (fun event => [event]) (·.2.warnings)) := by
  induction course generalizing state with
  | nil => rfl
  | cons h rest ih =>
    cases h with
    | line text writing =>
      cases writing <;> simp [log, account, Writing.warnings, Writing.reason?, Event.outputLost, ih]
    | _ => simp [log, account, ih]

-- The confirmation of an upload that the output refuses.
example :
    log .invokeUpload [.step (.moved .uploaded none), .line "done" (.refused "broken pipe")]
      = [.stepTaken .invokeUpload .uploaded, .outputLost "broken pipe"] := by
  rfl

/-- Where no line is lost, the log has the events and nothing else. -/
theorem log_lossless :
    course.lossless.log state = (course.account state).filterMap Sum.getLeft? := by
  induction course generalizing state with
  | nil => rfl
  | cons h rest ih =>
    rw [lossless_cons]
    cases h <;>
      simp [Happening.lossless, log, account, Writing.reason?, List.filterMap_cons, ih]

end Course

/-! ### Attempts -/

namespace Attempt

variable {α β : Type}

/-- The attempt with an output that takes every line. -/
def lossless (attempt : Attempt α) : Attempt α := ⟨attempt.outcome, attempt.course.lossless⟩

@[simp] theorem lossless_bind (attempt : Attempt α) (next : α → Attempt β) :
    (attempt >>= next).lossless = attempt.lossless >>= fun a => (next a).lossless := by
  rcases attempt with ⟨failure | a, course⟩
  · rfl
  · simp [lossless]

@[simp] theorem lossless_pure (a : α) : (pure a : Attempt α).lossless = pure a := rfl

@[simp] theorem lossless_ofExcept (outcome : Except Failure α) :
    (ofExcept outcome).lossless = ofExcept outcome := rfl

@[simp] theorem lossless_happen (h : Happening) : (happen h).lossless = happen h.lossless := rfl

@[simp] theorem lossless_map (f : α → β) (attempt : Attempt α) :
    (f <$> attempt).lossless = f <$> attempt.lossless := by
  rw [map_eq_pure_bind, map_eq_pure_bind, lossless_bind]
  rfl

/-- An attempt in which all that happens is quiet puts out nothing that could be lost. -/
theorem lossless_of_isQuiet {attempt : Attempt α} (quiet : attempt.course.IsQuiet) :
    attempt.lossless = attempt := by
  rw [lossless, quiet.lossless_eq]

end Attempt

/-- The same surroundings, with an output that takes every line. -/
def Surroundings.lossless (outside : Surroundings) : Surroundings :=
  { outside with acknowledgementWriting := .done, confirmationWriting := .done }

/-! ### Runs -/

namespace Run

variable (settings : Settings) (parts : Parts) (outside : Surroundings)

theorem publishMetadata_lossless :
    publishMetadata settings outside.lossless = (publishMetadata settings outside).lossless := by
  have looking (dist : String) : (extractCoordinates dist outside.listing).lossless
      = extractCoordinates dist outside.listing :=
    Attempt.lossless_of_isQuiet (isQuiet_course_extractCoordinates _ _)
  have sending (credentials : Credentials) (coordinates : Coordinates) :
      (Service.submit outside.transport outside.conversation credentials settings.timeout
        coordinates).lossless
      = Service.submit outside.transport outside.conversation credentials settings.timeout
        coordinates :=
    Attempt.lossless_of_isQuiet (Service.isQuiet_course_submit _ _ _ _ _)
  simp only [publishMetadata, Attempt.moveTo, Attempt.note, Attempt.lossless_bind, looking, sending,
    Attempt.lossless_ofExcept, Attempt.lossless_happen, Attempt.lossless_pure]
  rfl

theorem uploadArtifact_lossless :
    uploadArtifact settings outside.lossless = (uploadArtifact settings outside).lossless := by
  simp only [uploadArtifact, Upload.perform, Attempt.moveTo, Attempt.note, Attempt.lossless_bind,
    Attempt.lossless_ofExcept, Attempt.lossless_happen]
  rfl

theorem perform_lossless :
    perform settings parts outside.lossless = (perform settings parts outside).lossless := by
  cases parts with
  | all =>
    simp only [perform_all, publishMetadata_lossless, uploadArtifact_lossless,
      Attempt.lossless_bind, Attempt.lossless_map]
  | metadata =>
    rw [perform_metadata, perform_metadata, publishMetadata_lossless, Attempt.lossless_map]
  | upload =>
    rw [perform_upload, perform_upload, uploadArtifact_lossless, Attempt.lossless_map]

/-- A run with an output that takes every line is the same run, with every line taken. -/
theorem release_lossless :
    release settings parts outside.lossless = (release settings parts outside).lossless := by
  -- nothing is put out at the end of a run
  have closed (outcome : Except Failure Report) : (closing outcome).lossless = closing outcome := by
    rcases outcome with failure | report <;> rfl
  rw [release, release, perform_lossless]
  simp only [Attempt.lossless, Course.lossless_append, closed]

/-! ### Series -/

/-- The run with an output that takes every line. -/
def Entry.lossless (entry : Entry) : Entry := { entry with attempt := entry.attempt.lossless }

theorem sequenceFrom_lossless (machine : Machine) (runs : List (Parts × Surroundings)) :
    sequenceFrom settings machine (runs.map fun run => (run.1, run.2.lossless))
      = (sequenceFrom settings machine runs).map Entry.lossless := by
  induction runs generalizing machine with
  | nil => rfl
  | cons run runs ih =>
    rw [List.map_cons, sequenceFrom, sequenceFrom, List.map_cons, release_lossless, ← ih]
    simp only [Attempt.lossless, Course.steps_lossless, Entry.lossless]

end Run

/-- The same script, with an output that takes every line. -/
def Script.lossless (script : Script) : Script := { script with writing := fun _ => .done }

/-- Lines use up a script whether they are lost or not. -/
theorem Script.encounters_lossless (settings : Settings) (script : Script) (progress : Progress)
    (parts : List Parts) :
    script.lossless.encounters settings progress parts
      = (script.encounters settings progress parts).map fun run => (run.1, run.2.lossless) := by
  induction parts generalizing progress with
  | nil => rfl
  | cons part parts ih =>
    have outside : script.lossless.surroundings progress part
        = (script.surroundings progress part).lossless := rfl
    -- the next run goes on in the script by the lines that were attempted, not by those taken
    have used (course : Course) : progress.after course.lossless = progress.after course := by
      simp [Progress.after, Course.targets_lossless, Course.calls_lossless, Course.lines_lossless]
    rw [encounters, encounters, List.map_cons, outside, Run.release_lossless, ih,
      Attempt.lossless, used]

namespace Run

theorem series_lossless (settings : Settings) (script : Script) (parts : List Parts) :
    series settings script.lossless parts = (series settings script parts).map Entry.lossless := by
  rw [series, series, sequence, sequence, Script.encounters_lossless, sequenceFrom_lossless]

/-! ### What is seen -/

/-- The run goes as `ideal` does, in which every line is taken.  The logs have the same events, and
that of the run has a warning more for each line that is lost, in the place where the line was
attempted. -/
structure GoesAs (machine : Machine) (run ideal : Attempt Report) : Prop where
  outcome_eq : run.outcome = ideal.outcome
  machine_eq : machine.takeAll run.course.steps = machine.takeAll ideal.course.steps
  requests_eq : run.course.requests = ideal.course.requests
  calls_eq : run.course.calls = ideal.course.calls
  /-- The same lines are attempted. -/
  lines_eq : ideal.course.lines = run.course.lines.map fun line => (line.1, .done)
  lines_eq_account : run.course.lines
    = (run.course.account machine.state).filterMap Sum.getRight?
  log_ideal_eq : ideal.course.log machine.state
    = (run.course.account machine.state).filterMap Sum.getLeft?
  log_eq : run.course.log machine.state
    = (run.course.account machine.state).flatMap (Sum.elim (fun event => [event]) (·.2.warnings))

theorem goesAs_lossless (machine : Machine) (run : Attempt Report) :
    GoesAs machine run run.lossless where
  outcome_eq := rfl
  machine_eq := by rw [Attempt.lossless, Course.steps_lossless]
  requests_eq := run.course.requests_lossless.symm
  calls_eq := run.course.calls_lossless.symm
  lines_eq := run.course.lines_lossless
  lines_eq_account := (run.course.filterMap_getRight?_account machine.state).symm
  log_ideal_eq := run.course.log_lossless machine.state
  log_eq := run.course.log_eq_flatMap_account machine.state

/-- **A broken output changes no run.**  Whatever becomes of the lines that a run puts out, the run
goes as it does with an output that takes every line: it ends in the same way, takes its machine
through the same steps, and asks the service and calls the upload tool alike.  Its log has one
warning more for each line that is lost, in the place where the line was attempted; and what is
attempted are the confirmations of the states that the run enters.  So it is with every run of a
series along a script, also where the output breaks and mends from one run to the other. -/
theorem run_unmoved_by_lost_output (settings : Settings) :
    (∀ machine parts outside,
      let run := release settings parts outside
      GoesAs machine run (release settings parts outside.lossless) ∧
      ∃ message, run.course.lines = run.course.targets.flatMap (linesOf outside message)) ∧
    ∀ script parts, List.Forall₂
      (fun entry ideal => entry.before = ideal.before ∧ entry.after = ideal.after ∧
        GoesAs entry.before entry.attempt ideal.attempt)
      (series settings script parts) (series settings script.lossless parts) := by
  constructor
  · intro machine parts outside run
    rw [release_lossless]
    exact ⟨goesAs_lossless machine run, _, (balanced_release settings parts outside).lines_eq⟩
  · intro script parts
    rw [series_lossless, List.forall₂_map_right_iff, List.forall₂_same]
    exact fun entry _ => ⟨rfl, rfl, goesAs_lossless entry.before entry.attempt⟩

end Run

end PackageRelease
