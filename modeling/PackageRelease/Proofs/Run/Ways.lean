/-
PackageRelease/Proofs/Run/Ways.lean

The ways in which a run can go.

Each of the two parts of a run ends with the first thing that goes wrong in
it, and there are few such things.  `MetadataWay` and `UploadWay` list them,
each with everything that has happened up to there:

    metadata   unconfigured, unextracted, unpublished, published
    upload     unselected, uncalled, uploaded

What is proved about runs is proved from these lists and not from the parts.
The upload selects its token a second time, right before the call; a failure
of that selection is in no list, because the first one would have failed
before (`uploadArtifact_way`).
-/
import PackageRelease.Proofs.Artifact
import PackageRelease.Proofs.Service.Publish
import PackageRelease.Proofs.Upload
import PackageRelease.Run

namespace PackageRelease

namespace Run

variable {settings : Settings} {outside : Surroundings} {dist : String} {listing : Files.Listing}

/-! ### Coordinates -/

theorem extractCoordinates_outcome_eq_ok_iff {coordinates : Coordinates} :
    (extractCoordinates dist listing).outcome = .ok coordinates ↔
      ∃ artifact, Artifact.locate dist listing = .ok artifact ∧
        artifact.coordinates = .ok coordinates := by
  rcases located : Artifact.locate dist listing with failure | artifact
  · simp [extractCoordinates, located, Attempt.ofExcept]
  · simp [extractCoordinates, located, Attempt.ofExcept, Attempt.note]

theorem phase_of_extractCoordinates_eq_error {failure : Failure}
    (h : (extractCoordinates dist listing).outcome = .error failure) :
    failure.phase = .coordinates := by
  rcases located : Artifact.locate dist listing with failure' | artifact
  · rw [extractCoordinates, located] at h
    cases h
    exact Artifact.phase_of_locate_eq_error located
  · simp only [extractCoordinates, located, Attempt.ofExcept, Attempt.note, Attempt.mk_ok_bind,
      Attempt.happen_bind, Artifact.coordinates, Coordinates.ofFilename] at h
    split at h <;> cases h
    rfl

variable (dist listing) in
/-- The search for the artifact leaves at most one note. -/
theorem course_extractCoordinates :
    (extractCoordinates dist listing).course = [] ∨
      ∃ path, (extractCoordinates dist listing).course = [.note (.artifactFound path)] := by
  rcases located : Artifact.locate dist listing with failure | artifact
  · simp [extractCoordinates, located, Attempt.ofExcept]
  · simp [extractCoordinates, located, Attempt.ofExcept, Attempt.note]

variable (dist listing) in
theorem isQuiet_course_extractCoordinates : (extractCoordinates dist listing).course.IsQuiet := by
  rcases course_extractCoordinates dist listing with h | ⟨path, h⟩
  · exact h ▸ Course.isQuiet_nil
  · rw [h, Course.isQuiet_cons]
    refine ⟨?_, Course.isQuiet_nil⟩
    show "found release artifact" ≠ Event.stepMessage
    decide

variable (dist listing) in
theorem requests_course_extractCoordinates :
    (extractCoordinates dist listing).course.requests = [] := by
  rcases course_extractCoordinates dist listing with h | ⟨path, h⟩ <;>
    rw [h] <;> rfl

/-! ### The metadata part -/

/-- The machine goes to a state. -/
abbrev entering (state : State) (detail : Option String := none) : Happening :=
  .step (.moved state detail)

variable (settings outside) in
/-- The ways in which the metadata part can go.  What happens while the artifact is looked for and
while the coordinates are sent is quiet, and the service reads at most one request besides one for
each redirect that is followed. -/
inductive MetadataWay : Attempt (Coordinates × Service.Acknowledgement) → Prop
  | unconfigured {failure} (configured : settings.needCredentials = .error failure) :
      MetadataWay ⟨.error failure, []⟩
  | unextracted {credentials failure found}
      (configured : settings.needCredentials = .ok credentials)
      (extracted : extractCoordinates settings.dist outside.listing = ⟨.error failure, found⟩)
      (looking : found.IsQuiet) (unread : found.requests = []) :
      MetadataWay ⟨.error failure, entering .extractCoordinates :: found⟩
  | unpublished {credentials coordinates failure found sent}
      (configured : settings.needCredentials = .ok credentials)
      (extracted : extractCoordinates settings.dist outside.listing = ⟨.ok coordinates, found⟩)
      (published : Service.submit outside.transport outside.conversation credentials
        settings.timeout coordinates = ⟨.error failure, sent⟩)
      (looking : found.IsQuiet) (unread : found.requests = [])
      (sending : sent.IsQuiet)
      (read : sent.requests.length ≤ min outside.conversation.redirects 10 + 1) :
      MetadataWay ⟨.error failure, entering .extractCoordinates :: found ++
        entering .publishMetadata coordinates.text :: sent⟩
  | published {credentials coordinates ack found sent}
      (configured : settings.needCredentials = .ok credentials)
      (extracted : extractCoordinates settings.dist outside.listing = ⟨.ok coordinates, found⟩)
      (published : Service.submit outside.transport outside.conversation credentials
        settings.timeout coordinates = ⟨.ok ack, sent⟩)
      (looking : found.IsQuiet) (unread : found.requests = [])
      (sending : sent.IsQuiet)
      (read : sent.requests.length ≤ min outside.conversation.redirects 10 + 1) :
      MetadataWay ⟨.ok (coordinates, ack), entering .extractCoordinates :: found ++
        entering .publishMetadata coordinates.text :: sent ++
          [entering .metadataPublished, .note (.acknowledged ack.message),
            .line ack.message outside.acknowledgementWriting]⟩

variable (settings outside) in
theorem publishMetadata_way : MetadataWay settings outside (publishMetadata settings outside) := by
  unfold publishMetadata
  cases configured : settings.needCredentials with
  | error failure =>
    simp only [Attempt.ofExcept, Attempt.mk_error_bind]
    exact .unconfigured configured
  | ok credentials =>
    have looking := isQuiet_course_extractCoordinates settings.dist outside.listing
    have unread := requests_course_extractCoordinates settings.dist outside.listing
    rcases extracted : extractCoordinates settings.dist outside.listing with
      ⟨failure | coordinates, found⟩
    · simp only [Attempt.ofExcept, Attempt.moveTo, Attempt.mk_ok_bind, Attempt.happen_bind,
        Attempt.mk_error_bind, List.nil_append]
      rw [extracted] at looking unread
      exact .unextracted configured extracted looking unread
    · have sending := Service.isQuiet_course_submit outside.transport settings.timeout
        outside.conversation credentials coordinates
      have read := Service.requests_course_submit_length_le outside.transport settings.timeout
        outside.conversation credentials coordinates
      rw [extracted] at looking unread
      rcases published : Service.submit outside.transport outside.conversation credentials
        settings.timeout coordinates with ⟨failure | ack, sent⟩
      · simp only [Attempt.ofExcept, Attempt.moveTo, published, Attempt.mk_ok_bind,
          Attempt.happen_bind, Attempt.mk_error_bind, List.nil_append]
        rw [published] at sending read
        exact .unpublished configured extracted published looking unread sending read
      · simp only [Attempt.ofExcept, Attempt.moveTo, Attempt.note, published, Attempt.mk_ok_bind,
          Attempt.happen_bind, List.nil_append, ← List.cons_append, ← List.append_assoc]
        rw [published] at sending read
        exact .published configured extracted published looking unread sending read

/-! ### The upload part -/

variable (settings) in
/-- What happens up to the end of the call of the upload tool. -/
def calling (selection : Upload.Selection) : Course :=
  [entering .selectCredentials settings.upload.channel.name, entering .invokeUpload,
    .note (.uploading settings.upload.channel.name selection.tokenVariable.name
      (Upload.commandLine settings.upload settings.dist selection)),
    .call (Upload.call settings.upload settings.dist selection)]

variable (settings outside) in
/-- The ways in which the upload part can go. -/
inductive UploadWay : Attempt Unit → Prop
  | unselected {failure} (selected : Upload.select settings.upload = .error failure) :
      UploadWay ⟨.error failure, [entering .selectCredentials settings.upload.channel.name]⟩
  | uncalled {selection failure} (selected : Upload.select settings.upload = .ok selection)
      (judged : Upload.judge selection outside.tool = .error failure) :
      UploadWay ⟨.error failure, calling settings selection⟩
  | uploaded {selection} (selected : Upload.select settings.upload = .ok selection)
      (judged : Upload.judge selection outside.tool = .ok ()) :
      UploadWay ⟨.ok (), calling settings selection ++
        [entering .uploaded, .line confirmation outside.confirmationWriting]⟩

variable (settings outside) in
theorem uploadArtifact_way : UploadWay settings outside (uploadArtifact settings outside) := by
  unfold uploadArtifact
  cases selected : Upload.select settings.upload with
  | error failure =>
    simp only [Attempt.ofExcept, Attempt.moveTo, Attempt.happen_bind, Attempt.mk_error_bind]
    exact .unselected selected
  | ok selection =>
    -- the second selection, inside the upload itself, gives the same token as this one
    rw [Upload.perform_of_selection selected]
    rcases judged : Upload.judge selection outside.tool with failure | ⟨⟩
    · simp only [Attempt.ofExcept, Attempt.moveTo, Attempt.happen_bind, Attempt.mk_ok_bind,
        Attempt.mk_error_bind, List.nil_append]
      exact .uncalled selected judged
    · simp only [Attempt.ofExcept, Attempt.moveTo, Attempt.happen_bind, Attempt.mk_ok_bind,
        List.nil_append, List.cons_append]
      exact .uploaded selected judged

/-! ### The whole -/

variable (settings outside)

theorem perform_metadata :
    perform settings .metadata outside
      = (fun p => ⟨some p.1, some p.2, false⟩) <$> publishMetadata settings outside := by
  simp [perform, Parts.hasMetadata, Parts.hasUpload]

theorem perform_upload :
    perform settings .upload outside
      = (fun _ => ⟨none, none, true⟩) <$> uploadArtifact settings outside := by
  simp [perform, Parts.hasMetadata, Parts.hasUpload]

theorem perform_all :
    perform settings .all outside
      = publishMetadata settings outside >>= fun p =>
          (fun _ => ⟨some p.1, some p.2, true⟩) <$> uploadArtifact settings outside := by
  simp [perform, Parts.hasMetadata, Parts.hasUpload]

variable {settings outside} in
/-- What holds of the two parts and of the end of a run, and stays true of one course after the
other, holds of the run. -/
theorem course_release_of {P : Course → Prop} {parts : Parts}
    (append : ∀ {first second : Course}, P first → P second → P (first ++ second))
    (metadata : P (publishMetadata settings outside).course)
    (upload : P (uploadArtifact settings outside).course)
    (closed : ∀ outcome, P (closing outcome)) :
    P (release settings parts outside).course := by
  have performed : P (perform settings parts outside).course := by
    cases parts with
    | all =>
      rw [perform_all]
      apply Attempt.course_bind_of metadata
      intro p _
      rw [Attempt.course_map]
      exact append metadata upload
    | metadata =>
      rw [perform_metadata, Attempt.course_map]
      exact metadata
    | upload =>
      rw [perform_upload, Attempt.course_map]
      exact upload
  exact append performed (closed _)

end Run

end PackageRelease
