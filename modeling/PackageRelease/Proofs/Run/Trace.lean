/-
PackageRelease/Proofs/Run/Trace.lean

What the record of a machine looks like after any number of runs.

Each run adds one block to the record.  The states of the block are the whole
path of the parts of the run with `success` after it, or the beginning of that
path with `failed` after it (`targets_release`).  The next run starts from the
state in which the one before has ended, and so the record is one chain of
transitions from `start` on (`sequence_trace`).  The log tells the same story.
-/
import PackageRelease.Proofs.Run.Path
import PackageRelease.Run.Series

namespace PackageRelease

/-- The failure that the attempt ends with. -/
def Attempt.failure? {α : Type} (attempt : Attempt α) : Option Failure :=
  match attempt.outcome with
  | .ok _ => none
  | .error failure => some failure

namespace Run

variable {settings : Settings} {parts : Parts} {outside : Surroundings}

/-! ### The states of one run -/

/-- The states that a run enters: its whole path and `success` if it ends well, and else the
beginning of its path and `failed`. -/
structure Entered (parts : Parts) (attempt : Attempt Report) (targets : List State) : Prop where
  ok_iff : (∃ report, attempt.outcome = .ok report) ↔ targets = parts.path ++ [.success]
  /-- A run that fails has not come to the end of its path. -/
  error_iff : (∃ failure, attempt.outcome = .error failure) ↔
    ∃ sofar, sofar <+: parts.path ∧ sofar ≠ parts.path ∧ targets = sofar ++ [.failed]
  /-- Only the last state is terminal. -/
  ends : ∃ before last, targets = before ++ [last] ∧ last.isTerminal ∧
    ∀ state ∈ before, ¬ state.isTerminal

/-- No failure arises in the state to which the path of some parts leads. -/
theorem not_arisesIn_getLast?_path {failure : Failure} :
    ¬ ArisesIn settings parts.path.getLast? failure := by
  intro arises
  cases parts <;> cases arises

theorem targets_release (settings : Settings) (parts : Parts) (outside : Surroundings) :
    Entered parts (release settings parts outside)
      (release settings parts outside).course.targets := by
  refine ⟨?_, ?_, ?_⟩
  · rcases result : (release settings parts outside).outcome with failure | report
    · rw [targets_release_of_error result]
      refine ⟨nofun, fun whole => ?_⟩
      cases List.append_inj_right' whole rfl
    · exact ⟨fun _ => targets_release_of_ok result, fun _ => ⟨report, rfl⟩⟩
  · rcases result : (release settings parts outside).outcome with failure | report
    · obtain ⟨walked, arises⟩ := (perform_follows settings parts outside).broken failure result
      rw [Option.or_none] at arises
      refine ⟨fun _ => ⟨_, walked, fun whole => ?_, targets_release_of_error result⟩,
        fun _ => ⟨failure, rfl⟩⟩
      rw [whole] at arises
      exact not_arisesIn_getLast?_path arises
    · rw [targets_release_of_ok result]
      refine ⟨nofun, fun ⟨_, _, _, broken⟩ => ?_⟩
      cases List.append_inj_right' broken rfl
  · obtain ⟨sofar, last, walked, terminal, targets⟩ := exists_targets_release settings parts outside
    refine ⟨sofar, last, targets, terminal, fun state mem unended => ?_⟩
    exact parts.not_mem_path_of_isTerminal unended (walked.subset mem)

/-- A run takes at most one failing step, and takes it for the failure that it ends with. -/
theorem filterMap_failure?_steps_release (settings : Settings) (parts : Parts)
    (outside : Surroundings) :
    (release settings parts outside).course.steps.filterMap Step.failure?
      = (release settings parts outside).failure?.toList := by
  have unfailed := (perform_follows settings parts outside).unfailed
  rcases result : (release settings parts outside).outcome with failure | report
  · rw [steps_release_of_error result, List.filterMap_append, unfailed, Attempt.failure?, result]
    rfl
  · rw [steps_release_of_ok result, List.filterMap_append, unfailed, Attempt.failure?, result]
    rfl

/-! ### The log of one run -/

theorem isHonest_publishMetadata (settings : Settings) (outside : Surroundings) :
    (publishMetadata settings outside).course.IsHonest := by
  have way := publishMetadata_way settings outside
  generalize publishMetadata settings outside = attempt at way
  cases way with
  | unconfigured => exact Course.isHonest_nil
  | unextracted _ _ looking _ => simp [Happening.IsHonest, looking.isHonest]
  | unpublished _ _ _ looking _ sending _ =>
    simp [Happening.IsHonest, looking.isHonest, sending.isHonest]
  | published _ _ _ looking _ sending _ =>
    simp [Happening.IsHonest, looking.isHonest, sending.isHonest, Event.acknowledged,
      Event.stepMessage]

theorem isHonest_uploadArtifact (settings : Settings) (outside : Surroundings) :
    (uploadArtifact settings outside).course.IsHonest := by
  have way := uploadArtifact_way settings outside
  generalize uploadArtifact settings outside = attempt at way
  cases way <;> simp [calling, Happening.IsHonest, Event.uploading, Event.stepMessage]

/-- No run logs anything that could be taken for a step of the machine. -/
theorem isHonest_release (settings : Settings) (parts : Parts) (outside : Surroundings) :
    (release settings parts outside).course.IsHonest := by
  apply course_release_of
  · exact fun first second => Course.isHonest_append.2 ⟨first, second⟩
  · exact isHonest_publishMetadata settings outside
  · exact isHonest_uploadArtifact settings outside
  · rintro (failure | report) <;>
      simp [closing, Happening.IsHonest, Event.releaseFailed, Event.runFinished, Event.stepMessage]

/-! ### Series -/

namespace Entry

/-- The transitions that the run adds to the record. -/
def block (entry : Entry) : List Transition :=
  entry.after.transitions.drop entry.before.transitions.length

/-- The run does the parts of `run` and meets what `run` meets, and the machine takes its steps. -/
structure IsOf (settings : Settings) (run : Parts × Surroundings) (entry : Entry) : Prop where
  attempt_eq : entry.attempt = release settings run.1 run.2
  after_eq : entry.after = entry.before.takeAll entry.attempt.course.steps

variable {settings : Settings} {run : Parts × Surroundings} {entry : Entry}

theorem IsOf.block_eq (h : entry.IsOf settings run) :
    entry.block = Machine.transitionsFrom entry.before.state entry.attempt.course.steps := by
  rw [block, h.after_eq, Machine.transitions_takeAll, List.drop_left]

theorem IsOf.entered (h : entry.IsOf settings run) :
    Entered run.1 entry.attempt (entry.block.map (·.target)) := by
  rw [h.block_eq, Machine.map_target_transitionsFrom, h.attempt_eq]
  exact targets_release settings run.1 run.2

theorem IsOf.filter_log (h : entry.IsOf settings run) :
    entry.log.filter (·.message = Event.stepMessage)
      = entry.block.map fun t => .stepTaken t.source t.target := by
  have honest : entry.attempt.course.IsHonest := by
    rw [h.attempt_eq]
    exact isHonest_release settings run.1 run.2
  rw [h.block_eq]
  exact Course.filter_log honest entry.before.state

end Entry

variable (settings) (machine : Machine) (runs : List (Parts × Surroundings))

theorem Entry.isOf_head (run : Parts × Surroundings) :
    Entry.IsOf settings run ⟨release settings run.1 run.2, machine,
      machine.takeAll (release settings run.1 run.2).course.steps⟩ := ⟨rfl, rfl⟩

theorem isOf_sequenceFrom :
    List.Forall₂ (fun run entry => entry.IsOf settings run) runs
      (sequenceFrom settings machine runs) := by
  induction runs generalizing machine with
  | nil => exact .nil
  | cons run runs ih => exact .cons (Entry.isOf_head settings machine run) (ih _)

theorem steps_courseOf_cons (entry : Entry) (entries : List Entry) :
    (courseOf (entry :: entries)).steps
      = entry.attempt.course.steps ++ (courseOf entries).steps :=
  Course.steps_append _ _

/-- After a series the machine has taken the steps of all its runs. -/
theorem after_sequenceFrom :
    ((sequenceFrom settings machine runs).getLast?.map (·.after)).getD machine
      = machine.takeAll (courseOf (sequenceFrom settings machine runs)).steps := by
  induction runs generalizing machine with
  | nil => rfl
  | cons run runs ih =>
    rw [sequenceFrom, steps_courseOf_cons, Machine.takeAll_append, ← ih, List.getLast?_cons]
    cases (sequenceFrom settings _ runs).getLast? <;> rfl

/-- The blocks of a series make up one chain. -/
theorem flatMap_block_sequenceFrom :
    (sequenceFrom settings machine runs).flatMap Entry.block
      = Machine.transitionsFrom machine.state
          (courseOf (sequenceFrom settings machine runs)).steps := by
  induction runs generalizing machine with
  | nil => rfl
  | cons run runs ih =>
    have first := Entry.isOf_head settings machine run
    rw [sequenceFrom, List.flatMap_cons, first.block_eq, ih, steps_courseOf_cons,
      Machine.transitionsFrom_append, Machine.state_takeAll]

/-- The failing steps of a series are those of the runs that have failed. -/
theorem filterMap_failure?_sequenceFrom :
    (courseOf (sequenceFrom settings machine runs)).steps.filterMap Step.failure?
      = (sequenceFrom settings machine runs).filterMap (·.attempt.failure?) := by
  induction runs generalizing machine with
  | nil => rfl
  | cons run runs ih =>
    rw [sequenceFrom, steps_courseOf_cons, List.filterMap_append, ih, List.filterMap_cons,
      filterMap_failure?_steps_release]
    cases (release settings run.1 run.2).failure? <;> rfl

/-- The steps in the log of a series are those on the record. -/
theorem filter_log_sequenceFrom :
    ((sequenceFrom settings machine runs).flatMap Entry.log).filter
        (·.message = Event.stepMessage)
      = ((sequenceFrom settings machine runs).flatMap Entry.block).map
          fun t => .stepTaken t.source t.target := by
  induction runs generalizing machine with
  | nil => rfl
  | cons run runs ih =>
    have first := Entry.isOf_head settings machine run
    rw [sequenceFrom, List.flatMap_cons, List.filter_append, first.filter_log, ih,
      List.flatMap_cons, List.map_append]

/-! ### The whole record -/

/-- **The record of a series is one chain of blocks, one block for each run.**  Each block has the
states of its run; the chain begins in `start`, and each transition starts from where the one
before it has led to; the machine is in the last of the states, with the message of the last
failure, if there has been any; and the log tells of the same transitions in the same order, each by
the words of its two states, and no two states have the same word. -/
theorem sequence_trace :
    let entries := sequence settings runs
    let machine := machineOf entries
    machine.transitions = entries.flatMap Entry.block ∧
    List.Forall₂ (fun run entry => entry.attempt = release settings run.1 run.2 ∧
      Entered run.1 entry.attempt (entry.block.map (·.target))) runs entries ∧
    machine.transitions.map (·.source)
      = (.start :: machine.transitions.map (·.target)).dropLast ∧
    machine.state = ((machine.transitions.map (·.target)).getLast?).getD .start ∧
    machine.lastError = (entries.filterMap (·.attempt.failure?)).getLast?.map Failure.message ∧
    (entries.flatMap Entry.log).filter (·.message = "release state transition")
      = (machine.transitions.map fun t => ⟨.debug, "release state transition",
          [("from", t.source.word), ("to", t.target.word)]⟩) ∧
    ∀ state state' : State, state.word = state'.word → state = state' := by
  intro entries machine
  have are_runs := isOf_sequenceFrom settings {} runs
  have taken : machine = Machine.takeAll {} (courseOf entries).steps :=
    after_sequenceFrom settings {} runs
  have blocks : entries.flatMap Entry.block
      = Machine.transitionsFrom .start (courseOf entries).steps :=
    flatMap_block_sequenceFrom settings {} runs
  have failures : (courseOf entries).steps.filterMap Step.failure?
      = entries.filterMap (·.attempt.failure?) := filterMap_failure?_sequenceFrom settings {} runs
  have recorded : machine.transitions = entries.flatMap Entry.block := by
    rw [taken, Machine.transitions_takeAll, blocks]
    rfl
  refine ⟨recorded, are_runs.imp fun run entry h => ⟨h.attempt_eq, h.entered⟩, ?_, ?_, ?_, ?_,
    fun _ _ same => State.word_injective same⟩
  · rw [recorded, blocks, Machine.map_source_transitionsFrom, Machine.map_target_transitionsFrom]
  · rw [recorded, blocks, Machine.map_target_transitionsFrom, taken, Machine.state_takeAll]
  · rw [taken, Machine.lastError_takeAll, failures]
    exact Option.or_none
  · rw [recorded]
    exact filter_log_sequenceFrom settings {} runs

-- Nothing is set: the first run fails at once, and the second one for want of a token.
example (outside : Surroundings) :
    (machineOf (sequence (.read (fun _ => none) "dist" (.ofSeconds 5))
      [(.metadata, outside), (.upload, outside)])).transitions.map (·.target)
      = [.failed, .selectCredentials, .failed] := by
  rfl

end Run

end PackageRelease
