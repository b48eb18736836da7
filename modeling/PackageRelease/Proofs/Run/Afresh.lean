/-
PackageRelease/Proofs/Run/Afresh.lean

Runs of a series against runs of a machine that is new.

A series goes on with one machine, and what it meets outside comes from a
script of which each run uses up its share.  A run looks at none of the two
for what has been before:

    runs       r₁, ..., rᵢ₋₁, rᵢ, ...    of one machine, along the script
    afresh     rᵢ                        of a new machine, along the script
                                         without what r₁, ..., rᵢ₋₁ use up

The two runs are the same with all that happens in them.  On record they
differ in one place, and likewise in the log: the first transition starts from
where the machine has been before (`Entry.Repeats`).  That holds for every run
of a series, whatever it meets, and for every run along a script
(`series_stateless`).

The log is meant as far as it is known here: times are no part of it, and the
time since the first entry on record, which a run logs at its end, does depend
on the runs before.
-/
import PackageRelease.Proofs.Run.Trace

namespace PackageRelease

/-! ### Using up a script -/

namespace Progress

/-- Two amounts together. -/
def plus (progress more : Progress) : Progress where
  connections := progress.connections + more.connections
  calls := progress.calls + more.calls
  lines := progress.lines + more.lines

/-- What is used up by a course. -/
def ofCourse (course : Course) : Progress := after {} course

variable (progress more : Progress) (first second : Course)

theorem plus_zero : progress.plus {} = progress := rfl

theorem plus_after : (progress.plus more).after first = progress.plus (more.after first) := by
  simp [plus, after, Nat.add_assoc]

theorem after_append : progress.after (first ++ second) = (progress.after first).after second := by
  simp [after, Nat.add_assoc]

end Progress

namespace Script

/-- What is left of a script of which so much is used up. -/
def skip (script : Script) (used : Progress) : Script where
  listing := script.listing
  transport := script.transport
  conversation := fun n => script.conversation (used.connections + n)
  tool := fun n => script.tool (used.calls + n)
  writing := fun n => script.writing (used.lines + n)

variable (settings : Settings) (script : Script) (used progress : Progress)

theorem surroundings_skip (parts : Parts) :
    (script.skip used).surroundings progress parts
      = script.surroundings (used.plus progress) parts := by
  simp [surroundings, skip, Progress.plus, Nat.add_assoc]

/-- The rest of a script is met from where the script has been left. -/
theorem encounters_skip (parts : List Parts) :
    (script.skip used).encounters settings progress parts
      = script.encounters settings (used.plus progress) parts := by
  induction parts generalizing progress with
  | nil => rfl
  | cons part parts ih =>
    rw [encounters, encounters, ih, surroundings_skip, Progress.plus_after]

end Script

/-! ### Series in two parts -/

namespace Run

variable (settings : Settings) (script : Script) (machine : Machine) (progress : Progress)

theorem courseOf_cons (entry : Entry) (entries : List Entry) :
    courseOf (entry :: entries) = entry.attempt.course ++ courseOf entries := rfl

/-- A series goes on with the machine that has taken the steps so far. -/
theorem sequenceFrom_append (first second : List (Parts × Surroundings)) :
    sequenceFrom settings machine (first ++ second)
      = sequenceFrom settings machine first ++
          sequenceFrom settings
            (machine.takeAll (courseOf (sequenceFrom settings machine first)).steps) second := by
  induction first generalizing machine with
  | nil => rfl
  | cons run first ih =>
    rw [List.cons_append, sequenceFrom, sequenceFrom, ih, courseOf_cons, Course.steps_append,
      Machine.takeAll_append, List.cons_append]

/-- A series goes on in the script behind what it has used up so far. -/
theorem encounters_append (first second : List Parts) :
    script.encounters settings progress (first ++ second)
      = script.encounters settings progress first ++
          script.encounters settings
            (progress.after (courseOf (sequenceFrom settings machine
              (script.encounters settings progress first)))) second := by
  induction first generalizing progress machine with
  | nil => rfl
  | cons parts first ih =>
    rw [List.cons_append, Script.encounters, Script.encounters, ih, sequenceFrom, courseOf_cons,
      Progress.after_append, List.cons_append]

/-! ### The first step of a run -/

/-- The state that a course starts in is told by the event of its first step and by no other. -/
theorem exists_log_of_steps_eq_cons {course : Course} {step : Step} {more : List Step}
    (steps : course.steps = step :: more) :
    ∃ before after, ∀ state,
      course.log state = before ++ .stepTaken state step.target :: after := by
  induction course with
  | nil => cases steps
  | cons h rest ih =>
    rw [Course.steps_cons] at steps
    cases h with
    | step first =>
      obtain ⟨rfl, -⟩ := List.cons.inj steps
      exact ⟨[], Course.log first.target rest, fun _ => rfl⟩
    | note event =>
      obtain ⟨before, after, logged⟩ := ih steps
      exact ⟨event :: before, after, fun state => congrArg (event :: ·) (logged state)⟩
    | line text writing =>
      obtain ⟨before, after, logged⟩ := ih steps
      rcases lost : writing.reason? with - | reason
      · exact ⟨before, after, fun state => by rw [Course.log, lost, logged]⟩
      · refine ⟨.outputLost reason :: before, after, fun state => ?_⟩
        rw [Course.log, lost, logged, List.cons_append]
    | _ => exact ih steps

/-- A run takes a step at least: it comes to an end. -/
theorem steps_release_ne_nil (parts : Parts) (outside : Surroundings) :
    (release settings parts outside).course.steps ≠ [] := by
  intro still
  obtain ⟨before, last, targets, -⟩ := (targets_release settings parts outside).ends
  rw [Course.targets, still] at targets
  exact List.append_ne_nil_of_right_ne_nil _ (List.cons_ne_nil _ _) targets.symm

namespace Entry

/-- The run does what a fresh one does.  On record and in the log they tell the same but for one
place each, which tells of the state that the first transition starts from. -/
structure Repeats (entry fresh : Entry) : Prop where
  attempt_eq : entry.attempt = fresh.attempt
  shown : ∃ first detail rest before after,
    entry.block = ⟨entry.before.state, first, detail⟩ :: rest ∧
    fresh.block = ⟨fresh.before.state, first, detail⟩ :: rest ∧
    entry.log = before ++ .stepTaken entry.before.state first :: after ∧
    fresh.log = before ++ .stepTaken fresh.before.state first :: after

variable {settings : Settings} {run : Parts × Surroundings} {entry fresh : Entry}

/-- Runs of the same parts that meet the same are the same, whatever their machines have taken. -/
theorem IsOf.repeats (h : entry.IsOf settings run) (h' : fresh.IsOf settings run) :
    entry.Repeats fresh := by
  have same : entry.attempt = fresh.attempt := h.attempt_eq.trans h'.attempt_eq.symm
  refine ⟨same, ?_⟩
  obtain ⟨step, more, steps⟩ : ∃ step more, fresh.attempt.course.steps = step :: more := by
    rw [h'.attempt_eq]
    exact List.exists_cons_of_ne_nil (steps_release_ne_nil settings run.1 run.2)
  obtain ⟨before, after, logged⟩ := exists_log_of_steps_eq_cons steps
  refine ⟨step.target, step.detail, Machine.transitionsFrom step.target more, before, after,
    ?_, ?_, ?_, logged _⟩
  · rw [h.block_eq, same, steps, Machine.transitionsFrom]
  · rw [h'.block_eq, steps, Machine.transitionsFrom]
  · rw [log, same, logged]

end Entry

/-! ### Each run afresh -/

/-- **No run is changed by the runs before it.**  Wherever a run stands in a series, and with
whatever machine the series goes on, it repeats the run that a new machine does with the same
settings when it meets the same.  Along a script, what it meets is what the runs before it have
left of the script. -/
theorem series_stateless :
    (∀ machine before run after, ∃ entry rest fresh,
      sequenceFrom settings machine (before ++ run :: after)
        = sequenceFrom settings machine before ++ entry :: rest ∧
      sequence settings [run] = [fresh] ∧
      entry.Repeats fresh) ∧
    (∀ script before parts after, ∃ entry rest fresh,
      series settings script (before ++ parts :: after)
        = series settings script before ++ entry :: rest ∧
      series settings (script.skip (.ofCourse (courseOf (series settings script before)))) [parts]
        = [fresh] ∧
      entry.Repeats fresh) := by
  have sequences : ∀ machine before run after, ∃ entry rest fresh,
      sequenceFrom settings machine (before ++ run :: after)
        = sequenceFrom settings machine before ++ entry :: rest ∧
      sequence settings [run] = [fresh] ∧
      entry.Repeats fresh := by
    intro machine before run after
    have taken := Entry.isOf_head settings
      (machine.takeAll (courseOf (sequenceFrom settings machine before)).steps) run
    have afresh := Entry.isOf_head settings {} run
    exact ⟨_, _, _, sequenceFrom_append settings machine before (run :: after), rfl,
      taken.repeats afresh⟩
  refine ⟨sequences, fun script before parts after => ?_⟩
  -- a script makes a series meet some surroundings, and a new run meets the same in what is left
  obtain ⟨entry, rest, fresh, split, alone, repeats⟩ := sequences {}
    (script.encounters settings {} before)
    (parts, script.surroundings (.ofCourse (courseOf (series settings script before))) parts) _
  refine ⟨entry, rest, fresh, ?_, ?_, repeats⟩
  · rw [series, sequence, encounters_append settings script {}, Script.encounters]
    exact split
  · rw [series, Script.encounters_skip, Progress.plus_zero]
    exact alone

end Run

end PackageRelease
