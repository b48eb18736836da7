/-
PackageRelease/Proofs/Run/Path.lean

The path of a run, and where on it a failure can arise.

    metadata   extractCoordinates → publishMetadata → metadataPublished
    upload     selectCredentials → invokeUpload → uploaded

A run that ends well enters all the states of its path.  A run that fails
enters the states up to the one in which its failure arises, and `ArisesIn`
says which failures arise in which state.  Both together are `Follows`; that a
run follows the path of its parts is `perform_follows`.
-/
import PackageRelease.Proofs.Run.Record
import PackageRelease.Proofs.Run.Ways

namespace PackageRelease

/-! ### Paths -/

/-- The states of the metadata part. -/
def metadataPath : List State := [.extractCoordinates, .publishMetadata, .metadataPublished]

/-- The states of the upload part. -/
def uploadPath : List State := [.selectCredentials, .invokeUpload, .uploaded]

/-- The states of a run that does the parts, its end apart. -/
def Parts.path (parts : Parts) : List State :=
  (if parts.hasMetadata then metadataPath else []) ++ if parts.hasUpload then uploadPath else []

theorem Parts.not_mem_path_of_isTerminal {state : State} (h : state.isTerminal) (parts : Parts) :
    state ∉ parts.path := by
  cases state with
  | success | failed => cases parts <;> decide
  | _ => cases h

/-- No path leads through a state twice. -/
theorem Parts.nodup_path (parts : Parts) : parts.path.Nodup := by
  cases parts <;> decide

/-- The failure can arise in a run that is in the state; `none` stands for a run that has not
entered any state. -/
inductive ArisesIn (settings : Settings) : Option State → Failure → Prop
  | configuration {failure} (h : settings.needCredentials = .error failure) :
      ArisesIn settings none failure
  | extraction {failure} (h : failure.phase = .coordinates) :
      ArisesIn settings (some .extractCoordinates) failure
  | publication {failure} (h : failure.phase = .metadata) :
      ArisesIn settings (some .publishMetadata) failure
  | selection {failure} (h : Upload.select settings.upload = .error failure) :
      ArisesIn settings (some .selectCredentials) failure
  | call {failure} (h : failure.IsOfCall) : ArisesIn settings (some .invokeUpload) failure

theorem ArisesIn.phase_eq_upload_iff {settings : Settings} {entered : Option State}
    {failure : Failure} (h : ArisesIn settings entered failure) :
    failure.phase = .upload ↔
      entered = some .selectCredentials ∨ entered = some .invokeUpload := by
  cases h with
  | configuration configured =>
    have phase := Settings.phase_of_needCredentials_eq_error configured
    simp [phase]
  | extraction phase => simp [phase]
  | publication phase => simp [phase]
  | selection selected =>
    obtain ⟨-, rfl⟩ := Upload.select_eq_error_iff.1 selected
    simp [Failure.phase]
  | call called => simp [called.phase_eq]

/-! ### Following a path -/

namespace Attempt

variable {α β : Type} {settings : Settings} {entered : Option State} {path path' : List State}

/-- The attempt, made in the state, goes along the path: all the way if it ends well, and else up
to a state in which its failure can arise. -/
structure Follows (settings : Settings) (entered : Option State) (path : List State)
    (attempt : Attempt α) : Prop where
  unfailed : attempt.course.steps.filterMap Step.failure? = []
  complete : ∀ a, attempt.outcome = .ok a → attempt.course.targets = path
  broken : ∀ failure, attempt.outcome = .error failure →
    attempt.course.targets <+: path ∧
      ArisesIn settings (attempt.course.targets.getLast?.or entered) failure

theorem Follows.of_ok {a : α} {course : Course}
    (unfailed : course.steps.filterMap Step.failure? = []) (walked : course.targets = path) :
    Follows settings entered path (⟨.ok a, course⟩ : Attempt α) where
  unfailed := unfailed
  complete _ _ := walked
  broken _ h := by cases h

theorem Follows.of_error {failure : Failure} {course : Course}
    (unfailed : course.steps.filterMap Step.failure? = []) (walked : course.targets <+: path)
    (arises : ArisesIn settings (course.targets.getLast?.or entered) failure) :
    Follows settings entered path (⟨.error failure, course⟩ : Attempt α) where
  unfailed := unfailed
  complete _ h := by cases h
  broken _ h := by
    cases h
    exact ⟨walked, arises⟩

theorem Follows.map {attempt : Attempt α} (f : α → β)
    (h : attempt.Follows settings entered path) :
    (f <$> attempt).Follows settings entered path where
  unfailed := by rw [course_map]; exact h.unfailed
  complete b hb := by
    obtain ⟨a, ha, -⟩ := outcome_map_eq_ok_iff.1 hb
    rw [course_map]
    exact h.complete a ha
  broken failure hf := by
    rcases attempt with ⟨failure' | a, course⟩
    · cases hf
      exact h.broken failure rfl
    · cases hf

/-- One attempt after the other follows one path after the other. -/
theorem Follows.bind {attempt : Attempt α} {next : α → Attempt β}
    (first : attempt.Follows settings entered path)
    (second : ∀ a, attempt.outcome = .ok a →
      (next a).Follows settings (path.getLast?.or entered) path') :
    (attempt >>= next).Follows settings entered (path ++ path') := by
  rcases attempt with ⟨failure | a, course⟩
  · obtain ⟨sofar, arises⟩ := first.broken failure rfl
    exact .of_error first.unfailed (sofar.trans (List.prefix_append _ _)) arises
  · have walked : course.targets = path := first.complete a rfl
    have then_ := second a rfl
    refine ⟨?_, fun b h => ?_, fun failure h => ?_⟩
    · show (course ++ (next a).course).steps.filterMap Step.failure? = []
      rw [Course.steps_append, List.filterMap_append, then_.unfailed, List.append_nil]
      exact first.unfailed
    · show (course ++ (next a).course).targets = path ++ path'
      rw [Course.targets_append, walked, then_.complete b h]
    · show (course ++ (next a).course).targets <+: path ++ path' ∧
        ArisesIn settings ((course ++ (next a).course).targets.getLast?.or entered) failure
      obtain ⟨sofar, arises⟩ := then_.broken failure h
      rw [Course.targets_append, walked, List.getLast?_append, Option.or_assoc]
      exact ⟨(List.prefix_append_right_inj _).2 sofar, arises⟩

end Attempt

/-! ### Runs -/

namespace Run

variable (settings : Settings) (parts : Parts) (outside : Surroundings)

theorem publishMetadata_follows :
    (publishMetadata settings outside).Follows settings none metadataPath := by
  have way := publishMetadata_way settings outside
  generalize publishMetadata settings outside = attempt at way
  cases way with
  | unconfigured configured => exact .of_error rfl List.nil_prefix (.configuration configured)
  | @unextracted _ _ found configured extracted looking _ =>
    have walked : Course.targets (entering .extractCoordinates :: found)
        = [.extractCoordinates] := by
      simp [looking.targets_eq_nil]
    apply Attempt.Follows.of_error
    · simp [looking.steps_eq_nil]
    · rw [walked]
      exact ⟨_, rfl⟩
    · rw [walked]
      exact .extraction (phase_of_extractCoordinates_eq_error (congrArg Attempt.outcome extracted))
  | @unpublished _ coordinates _ found sent configured extracted published looking _ sending _ =>
    have walked : Course.targets (entering .extractCoordinates :: found ++
        entering .publishMetadata coordinates.text :: sent)
        = [.extractCoordinates, .publishMetadata] := by
      simp [looking.targets_eq_nil, sending.targets_eq_nil]
    apply Attempt.Follows.of_error
    · simp [looking.steps_eq_nil, sending.steps_eq_nil]
    · rw [walked]
      exact ⟨_, rfl⟩
    · rw [walked]
      exact .publication (Service.phase_of_submit_eq_error (congrArg Attempt.outcome published))
  | published configured extracted published looking _ sending _ =>
    apply Attempt.Follows.of_ok
    · simp [looking.steps_eq_nil, sending.steps_eq_nil]
    · simp [looking.targets_eq_nil, sending.targets_eq_nil, metadataPath]

theorem uploadArtifact_follows (entered : Option State) :
    (uploadArtifact settings outside).Follows settings entered uploadPath := by
  have way := uploadArtifact_way settings outside
  generalize uploadArtifact settings outside = attempt at way
  cases way with
  | unselected selected => exact .of_error rfl ⟨_, rfl⟩ (.selection selected)
  | uncalled selected judged =>
    exact .of_error rfl ⟨_, rfl⟩ (.call (Upload.isOfCall_of_judge_eq_error judged))
  | uploaded selected judged => exact .of_ok rfl rfl

/-- **A run follows the path of its parts.** -/
theorem perform_follows :
    (perform settings parts outside).Follows settings none parts.path := by
  cases parts with
  | all =>
    rw [perform_all]
    exact (publishMetadata_follows settings outside).bind fun _ _ =>
      (uploadArtifact_follows settings outside _).map _
  | metadata =>
    rw [perform_metadata]
    exact (publishMetadata_follows settings outside).map _
  | upload =>
    rw [perform_upload]
    exact (uploadArtifact_follows settings outside none).map _

/-! ### The end of a run -/

variable {settings parts outside}

theorem steps_release_of_ok {report : Report}
    (done : (release settings parts outside).outcome = .ok report) :
    (release settings parts outside).course.steps
      = (perform settings parts outside).course.steps ++ [.moved .success none] := by
  have done' : (perform settings parts outside).outcome = .ok report := done
  show (_ ++ closing (perform settings parts outside).outcome : Course).steps = _
  rw [Course.steps_append, done']
  rfl

theorem steps_release_of_error {failure : Failure}
    (failed : (release settings parts outside).outcome = .error failure) :
    (release settings parts outside).course.steps
      = (perform settings parts outside).course.steps ++ [.failed failure] := by
  have failed' : (perform settings parts outside).outcome = .error failure := failed
  show (_ ++ closing (perform settings parts outside).outcome : Course).steps = _
  rw [Course.steps_append, failed']
  rfl

/-- A run that ends well goes all the way. -/
theorem targets_release_of_ok {report : Report}
    (done : (release settings parts outside).outcome = .ok report) :
    (release settings parts outside).course.targets = parts.path ++ [.success] := by
  have walked := (perform_follows settings parts outside).complete report done
  rw [Course.targets, steps_release_of_ok done, List.map_append, ← walked]
  rfl

theorem targets_release_of_error {failure : Failure}
    (failed : (release settings parts outside).outcome = .error failure) :
    (release settings parts outside).course.targets
      = (perform settings parts outside).course.targets ++ [.failed] := by
  rw [Course.targets, steps_release_of_error failed, List.map_append]
  rfl

variable (settings parts outside) in
/-- Whatever comes of a run, it goes some way along its path and then to a terminal state. -/
theorem exists_targets_release :
    ∃ sofar last, sofar <+: parts.path ∧ last.isTerminal ∧
      (release settings parts outside).course.targets = sofar ++ [last] := by
  rcases result : (release settings parts outside).outcome with failure | report
  · obtain ⟨walked, -⟩ := (perform_follows settings parts outside).broken failure result
    exact ⟨_, _, walked, rfl, targets_release_of_error result⟩
  · exact ⟨_, _, List.prefix_rfl, rfl, targets_release_of_ok result⟩

variable (settings parts outside) in
/-- No run enters a state twice. -/
theorem nodup_targets_release : (release settings parts outside).course.targets.Nodup := by
  obtain ⟨sofar, last, walked, terminal, targets⟩ := exists_targets_release settings parts outside
  rw [targets, List.nodup_append]
  refine ⟨walked.sublist.nodup parts.nodup_path, by simp, fun state mem last' mem' => ?_⟩
  obtain rfl := List.mem_singleton.1 mem'
  rintro rfl
  exact parts.not_mem_path_of_isTerminal terminal (walked.subset mem)

end Run

end PackageRelease
