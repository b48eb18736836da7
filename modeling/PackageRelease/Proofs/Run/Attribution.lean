/-
PackageRelease/Proofs/Run/Attribution.lean

What the record of a run tells of its failure.

The phase of a failure stands in the failure, and the states that the run has
entered stand in the record of the machine.  Nothing in the machine ties the
two together; that they agree is what `release_failure_attributed` says:

    phase          last state that the run has entered
    config         none
    coordinates    extractCoordinates
    metadata       publishMetadata
    upload         selectCredentials, where there is no token, or
                   invokeUpload, where the call of the tool goes wrong
-/
import PackageRelease.Proofs.Run.Path

namespace PackageRelease

/-! ### Failures and their phases -/

namespace Failure

variable {failure : Failure}

/-- An upload fails for want of a token or in the call of the tool. -/
theorem phase_eq_upload_iff :
    failure.phase = .upload ↔ (∃ key, failure = .missingCredential key) ∨ failure.IsOfCall := by
  constructor
  · intro h
    cases failure with
    | missingCredential key => exact .inl ⟨key, rfl⟩
    | uploadFailed code => exact .inr (.exited code)
    | uploadTerminated => exact .inr .killed
    | uploadSpawn message => exact .inr (.unstarted message)
    | _ => cases h
  · rintro (⟨key, rfl⟩ | h)
    · rfl
    · exact h.phase_eq

end Failure

/-! ### Attribution -/

/-- The failure fits the states that the run has entered before it failed. -/
structure Attributed (environment : Environment) (before : List State) (failure : Failure) :
    Prop where
  config_iff : failure.phase = .config ↔ before = []
  /-- A failure of the configuration names the first variable that is missing. -/
  variable_eq : failure.phase = .config →
    ∃ v, Credentials.missing? environment = some v ∧ failure = .missingConfig v.name
  coordinates_iff : failure.phase = .coordinates ↔ before.getLast? = some .extractCoordinates
  metadata_iff : failure.phase = .metadata ↔ before.getLast? = some .publishMetadata
  upload_iff : failure.phase = .upload ↔
    before.getLast? = some .selectCredentials ∨ before.getLast? = some .invokeUpload
  selection_iff : before.getLast? = some .selectCredentials ↔
    ∃ key, failure = .missingCredential key
  /-- A missing token is named by the variable of the channel. -/
  token_eq : ∀ key, failure = .missingCredential key →
    key = (UploadSettings.ofEnvironment environment).channel.tokenVariable.name
  call_iff : before.getLast? = some .invokeUpload ↔ failure.IsOfCall

/-- A failure fits the state in which it arises. -/
theorem Attributed.of_arisesIn {environment : Environment} {dist : String} {timeout : Duration}
    {before : List State} {failure : Failure}
    (h : ArisesIn (.read environment dist timeout) before.getLast? failure) :
    Attributed environment before failure := by
  have empty : before = [] ↔ before.getLast? = none := List.getLast?_eq_none_iff.symm
  generalize entered : before.getLast? = state at h
  rw [entered] at empty
  -- outside the phase of the upload a failure is none of the failures of the upload
  have other (apart : failure.phase ≠ .upload) :
      (¬ ∃ key, failure = .missingCredential key) ∧ ¬ failure.IsOfCall :=
    not_or.1 (mt Failure.phase_eq_upload_iff.2 apart)
  cases h with
  | configuration configured =>
    obtain ⟨v, missing, rfl⟩ := Settings.needCredentials_read_eq_error_iff.1 configured
    obtain ⟨-, uncalled⟩ := other (by simp [Failure.phase])
    constructor <;> simp [Failure.phase, entered, empty, missing, uncalled]
  | extraction phase | publication phase =>
    obtain ⟨unselected, uncalled⟩ := other (by simp [phase])
    constructor <;> simp_all
  | selection selected =>
    obtain ⟨-, rfl⟩ := Upload.select_eq_error_iff.1 selected
    have uncalled (key : String) : ¬ (Failure.missingCredential key).IsOfCall := by
      intro called
      cases called
    constructor <;>
      simp [Failure.phase, entered, empty, uncalled, Settings.read, Settings.ofEnvironment]
  | call called =>
    have phase := called.phase_eq
    have unselected : ¬ ∃ key, failure = .missingCredential key := by
      rintro ⟨key, rfl⟩
      cases called
    constructor <;> simp_all

/-! ### Runs -/

namespace Run

variable {environment : Environment} {dist : String} {timeout : Duration}
variable {parts : Parts} {outside : Surroundings}

/-- A run never fails right after the end of one of its parts. -/
theorem not_infix_targets_release {state : State}
    (done : state = .metadataPublished ∨ state = .uploaded) :
    ¬ [state, .failed] <:+:
      (release (.read environment dist timeout) parts outside).course.targets := by
  intro adjacent
  have failed_mem : State.failed ∈
      (release (.read environment dist timeout) parts outside).course.targets :=
    adjacent.subset (by simp)
  have apart : State.failed ∉ parts.path := parts.not_mem_path_of_isTerminal rfl
  rcases result : (release (.read environment dist timeout) parts outside).outcome with
    failure | report
  · obtain ⟨sofar, arises⟩ := (perform_follows _ parts outside).broken failure result
    rw [targets_release_of_error result, List.infix_concat_iff] at adjacent
    rcases adjacent with adjacent | adjacent
    · rcases List.suffix_concat_iff.1 adjacent with empty | ⟨front, eq, front_suffix⟩
      · cases empty
      have eq' : [state] ++ [.failed] = front ++ [.failed] := eq
      obtain rfl := List.append_cancel_right eq'
      rw [Option.or_none, List.singleton_suffix_iff_getLast?_eq_some.1 front_suffix] at arises
      rcases done with rfl | rfl <;> cases arises
    · exact apart (sofar.subset (adjacent.subset (by simp)))
  · rw [targets_release_of_ok result] at failed_mem
    simp [apart] at failed_mem

/-- **The record of a run tells where its failure has come from.**  Whatever the machine has on
record before the run, a run that fails ends with a transition to `failed` that bears the code of
the failure, the message of the failure is the last error, and the failure fits the states that
the run has entered before.  No run fails right after the end of one of its parts. -/
theorem release_failure_attributed (environment : Environment) (dist : String)
    (timeout : Duration) (parts : Parts) (outside : Surroundings) (machine : Machine) :
    let attempt := release (.read environment dist timeout) parts outside
    let after := machine.takeAll attempt.course.steps
    ∃ block, after.transitions = machine.transitions ++ block ∧
      (∀ failure, attempt.outcome = .error failure →
        after.lastError = some failure.message ∧
        ∃ before last, block = before ++ [last] ∧
          last.source = ((before.map (·.target)).getLast?).getD machine.state ∧
          last.target = .failed ∧ last.detail = some failure.code ∧
          Attributed environment (before.map (·.target)) failure) ∧
      ¬ [.metadataPublished, .failed] <:+: block.map (·.target) ∧
      ¬ [.uploaded, .failed] <:+: block.map (·.target) := by
  intro attempt after
  refine ⟨Machine.transitionsFrom machine.state attempt.course.steps,
    machine.transitions_takeAll _, fun failure failed => ⟨?_, ?_⟩, ?_, ?_⟩
  · have unfailed := (perform_follows (.read environment dist timeout) parts outside).unfailed
    rw [Machine.lastError_takeAll, steps_release_of_error failed, List.filterMap_append, unfailed]
    rfl
  · obtain ⟨-, arises⟩ := (perform_follows (.read environment dist timeout) parts outside).broken
      failure failed
    rw [Option.or_none] at arises
    rw [steps_release_of_error failed, Machine.transitionsFrom_append]
    refine ⟨_, _, rfl, ?_, rfl, rfl, ?_⟩
    · rw [Machine.map_target_transitionsFrom]
    · rw [Machine.map_target_transitionsFrom]
      exact .of_arisesIn arises
  · rw [Machine.map_target_transitionsFrom]
    exact not_infix_targets_release (.inl rfl)
  · rw [Machine.map_target_transitionsFrom]
    exact not_infix_targets_release (.inr rfl)

end Run

end PackageRelease
