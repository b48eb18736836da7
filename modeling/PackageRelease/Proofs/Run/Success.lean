/-
PackageRelease/Proofs/Run/Success.lean

When a run ends well.

`MetadataReady` and `UploadReady` say what the two parts need of the variables
and of what they meet outside, without a word about how the parts go about it.
Where a client can be set up, a run ends well exactly if each part that it does
has what it needs (`release_succeeds_iff`): no failure is passed over, and none
is made up.
-/
import PackageRelease.Proofs.Artifact.Location
import PackageRelease.Proofs.Run.Ways

namespace PackageRelease

namespace Run

variable {environment : Environment} {dist : String} {timeout : Duration} {outside : Surroundings}

/-! ### What the parts need -/

/-- What the metadata part needs to end with the coordinates and the acknowledgement. -/
structure MetadataReady (environment : Environment) (outside : Surroundings)
    (coordinates : Coordinates) (ack : Service.Acknowledgement) : Prop where
  configured : ∀ v ∈ [Variable.metadataUrl, .metadataUsername, .metadataPassword],
    (environment.nonEmpty? v).isSome
  /-- There is one candidate in the directory, and the coordinates stand in its name. -/
  extracted : ∃ entries entry name, outside.listing = .ok entries ∧
    Files.candidates entries = [entry] ∧ entry.IsNamed name ∧
    Coordinates.ofFilename name = .ok coordinates
  acknowledged : ∃ host, environment.nonEmpty? .metadataUrl = some host ∧
    Service.Acknowledges outside.transport outside.conversation host ack

/-- What the upload part needs. -/
structure UploadReady (environment : Environment) (outside : Surroundings) : Prop where
  /-- There is a token for the channel. -/
  selected : (environment.nonEmpty?
    (UploadSettings.ofEnvironment environment).channel.tokenVariable).isSome
  uploaded : outside.tool = .ok ⟨some 0⟩

/-! ### The parts -/

/-- The artifact is found under the name of the only candidate. -/
theorem locate_and_parse_iff {coordinates : Coordinates} :
    (∃ artifact, Artifact.locate dist outside.listing = .ok artifact ∧
        artifact.coordinates = .ok coordinates) ↔
      ∃ entries entry name, outside.listing = .ok entries ∧ Files.candidates entries = [entry] ∧
        entry.IsNamed name ∧ Coordinates.ofFilename name = .ok coordinates := by
  simp only [Artifact.locate_eq_ok_iff, Files.filter_counts, Files.Entry.decode?_name_eq_some_iff]
  constructor
  · rintro ⟨_, ⟨entries, entry, name, listed, counted, named, rfl⟩, parsed⟩
    exact ⟨entries, entry, name, listed, counted, named, parsed⟩
  · rintro ⟨entries, entry, name, listed, counted, named, parsed⟩
    exact ⟨_, ⟨entries, entry, name, listed, counted, named, rfl⟩, parsed⟩

theorem publishMetadata_outcome_eq_ok_iff {coordinates : Coordinates}
    {ack : Service.Acknowledgement} :
    (publishMetadata (.read environment dist timeout) outside).outcome = .ok (coordinates, ack) ↔
      outside.transport.CanStart ∧ MetadataReady environment outside coordinates ack := by
  simp only [publishMetadata, Attempt.outcome_bind, bind_eq_ok_iff, Attempt.ofExcept,
    Attempt.moveTo, Attempt.note, Attempt.happen, Settings.needCredentials_eq_ok_iff,
    Settings.read, Settings.ofEnvironment, Credentials.ofEnvironment_eq_ok_iff,
    extractCoordinates_outcome_eq_ok_iff, locate_and_parse_iff, Service.submit_outcome_eq_ok_iff,
    Attempt.outcome_pure, Except.ok.injEq, Prod.mk.injEq]
  constructor
  · rintro ⟨credentials, ⟨url, user, password⟩, -, -, _, found, -, -, _, ⟨start, acknowledged⟩, -,
      -, -, -, -, -, rfl, rfl⟩
    exact ⟨start, by simp [url, user, password], found, ⟨_, url, acknowledged⟩⟩
  · rintro ⟨start, configured, found, host, url, acknowledged⟩
    obtain ⟨username, user⟩ := Option.isSome_iff_exists.1 (configured .metadataUsername (by simp))
    obtain ⟨secret, password⟩ := Option.isSome_iff_exists.1 (configured .metadataPassword (by simp))
    exact ⟨⟨username, ⟨secret⟩, host⟩, ⟨url, user, password⟩, (), trivial, coordinates, found, (),
      trivial, ack, ⟨start, acknowledged⟩, (), trivial, (), trivial, (), trivial, rfl, rfl⟩

theorem uploadArtifact_outcome_eq_ok_iff {u : Unit} :
    (uploadArtifact (.read environment dist timeout) outside).outcome = .ok u ↔
      UploadReady environment outside := by
  constructor
  · intro h
    have way := uploadArtifact_way (.read environment dist timeout) outside
    generalize uploadArtifact (.read environment dist timeout) outside = attempt at h way
    cases way with
    | unselected => cases h
    | uncalled => cases h
    | uploaded selected judged =>
      exact ⟨Upload.select_ofEnvironment_isOk_iff.1 ⟨_, selected⟩, Upload.judge_eq_ok_iff.1 judged⟩
  · rintro ⟨set, exited⟩
    obtain ⟨selection, selected⟩ := Upload.select_ofEnvironment_isOk_iff.2 set
    have selected' : Upload.select (Settings.read environment dist timeout).upload
        = .ok selection := selected
    have judged : Upload.judge selection outside.tool = .ok () := Upload.judge_eq_ok_iff.2 exited
    simp [uploadArtifact, Attempt.ofExcept, Attempt.moveTo, selected',
      Upload.perform_of_selection selected', judged, Attempt.happen]

/-! ### The run -/

theorem perform_outcome_eq_ok_iff {parts : Parts} {report : Report} :
    (perform (.read environment dist timeout) parts outside).outcome = .ok report ↔
      (if parts.hasMetadata then
        outside.transport.CanStart ∧ ∃ coordinates ack,
          MetadataReady environment outside coordinates ack ∧
          report.coordinates = some coordinates ∧ report.acknowledgement = some ack
      else report.coordinates = none ∧ report.acknowledgement = none) ∧
      (parts.hasUpload → UploadReady environment outside) ∧
      report.uploaded = parts.hasUpload := by
  obtain ⟨coordinates?, ack?, uploaded⟩ := report
  cases parts with
  | all =>
    simp only [perform_all, Attempt.outcome_bind, bind_eq_ok_iff, Attempt.outcome_map_eq_ok_iff,
      Prod.exists, publishMetadata_outcome_eq_ok_iff, uploadArtifact_outcome_eq_ok_iff,
      Report.mk.injEq, Parts.hasMetadata, Parts.hasUpload, if_true]
    constructor
    · rintro ⟨coordinates, ack, ⟨start, metadata⟩, -, upload, rfl, rfl, rfl⟩
      exact ⟨⟨start, coordinates, ack, metadata, rfl, rfl⟩, fun _ => upload, rfl⟩
    · rintro ⟨⟨start, coordinates, ack, metadata, rfl, rfl⟩, upload, rfl⟩
      exact ⟨coordinates, ack, ⟨start, metadata⟩, (), upload trivial, rfl, rfl, rfl⟩
  | metadata =>
    simp only [perform_metadata, Attempt.outcome_map_eq_ok_iff, Prod.exists,
      publishMetadata_outcome_eq_ok_iff, Report.mk.injEq, Parts.hasMetadata, Parts.hasUpload,
      if_true]
    constructor
    · rintro ⟨coordinates, ack, ⟨start, metadata⟩, rfl, rfl, rfl⟩
      refine ⟨⟨start, coordinates, ack, metadata, rfl, rfl⟩, ?_, rfl⟩
      intro selected
      cases selected
    · rintro ⟨⟨start, coordinates, ack, metadata, rfl, rfl⟩, -, rfl⟩
      exact ⟨coordinates, ack, ⟨start, metadata⟩, rfl, rfl, rfl⟩
  | upload =>
    simp only [perform_upload, Attempt.outcome_map_eq_ok_iff, uploadArtifact_outcome_eq_ok_iff,
      Report.mk.injEq, Parts.hasMetadata, Parts.hasUpload, Bool.false_eq_true, if_false]
    constructor
    · rintro ⟨-, upload, rfl, rfl, rfl⟩
      exact ⟨⟨rfl, rfl⟩, fun _ => upload, rfl⟩
    · rintro ⟨⟨rfl, rfl⟩, upload, rfl⟩
      exact ⟨(), upload trivial, rfl, rfl, rfl⟩

/-- Only a run that ends well has the exit code 0. -/
theorem exitCode_eq_zero_iff {result : Except Failure Report} :
    exitCode result = 0 ↔ ∃ report, result = .ok report := by
  rcases result with failure | report
  · have := failure.exitCode_ge_three
    simp [exitCode]
    omega
  · simp [exitCode]

/-- A service that does not redirect acknowledges by its answer to what is posted. -/
theorem acknowledges_iff_of_isDirect (direct : outside.conversation.IsDirect) {host : String}
    {ack : Service.Acknowledgement} :
    Service.Acknowledges outside.transport outside.conversation host ack ↔
      (Url.parse? (Service.endpoint host)).isSome ∧
        ∃ reply, outside.conversation = .answered reply ∧
          200 ≤ reply.status ∧ reply.status < 300 ∧ reply.IsWhole ∧
          ∃ text, reply.Says outside.transport.decoders text ∧
            Service.Acknowledgement.decode text = .ok ack := by
  simp only [Service.Acknowledges, Service.Conversation.leadsTo_iff_of_isDirect direct]
  refine and_congr_right fun _ => exists_congr fun reply => and_congr_right fun _ => ?_
  constructor
  · rintro ⟨success, whole, said⟩
    exact ⟨success.1, success.2, whole, said⟩
  · rintro ⟨final, status, whole, said⟩
    exact ⟨⟨final, status⟩, whole, said⟩

/-- **A run ends well exactly if each part that it does has what it needs.**  Its report then
holds what the parts have come to, and the exit code is 0; otherwise the exit code is that of the
failure, between 3 and 12.  Where the service does not redirect, the answer that it needs is the
answer to what is posted to the endpoint. -/
theorem release_succeeds_iff (environment : Environment) (dist : String) (timeout : Duration)
    (parts : Parts) (outside : Surroundings) (start : outside.transport.CanStart) :
    let result := (release (.read environment dist timeout) parts outside).outcome
    ((∃ report, result = .ok report) ↔
      (parts.hasMetadata → ∃ coordinates ack,
        MetadataReady environment outside coordinates ack) ∧
      (parts.hasUpload → UploadReady environment outside)) ∧
    (∀ report, result = .ok report →
      (if parts.hasMetadata then
        ∃ coordinates ack, MetadataReady environment outside coordinates ack ∧
          report.coordinates = some coordinates ∧ report.acknowledgement = some ack
      else report.coordinates = none ∧ report.acknowledgement = none) ∧
      report.uploaded = parts.hasUpload) ∧
    (exitCode result = 0 ↔ ∃ report, result = .ok report) ∧
    (∀ failure, result = .error failure →
      exitCode result = failure.exitCode ∧ 3 ≤ failure.exitCode ∧ failure.exitCode ≤ 12) ∧
    (outside.conversation.IsDirect → ∀ host ack,
      Service.Acknowledges outside.transport outside.conversation host ack ↔
        (Url.parse? (Service.endpoint host)).isSome ∧
          ∃ reply, outside.conversation = .answered reply ∧
            200 ≤ reply.status ∧ reply.status < 300 ∧ reply.IsWhole ∧
            ∃ text, reply.Says outside.transport.decoders text ∧
              Service.Acknowledgement.decode text = .ok ack) := by
  intro result
  have result_eq : result = (perform (.read environment dist timeout) parts outside).outcome := rfl
  refine ⟨⟨?_, ?_⟩, ?_, exitCode_eq_zero_iff, ?_,
    fun direct _ _ => acknowledges_iff_of_isDirect direct⟩
  · rintro ⟨report, h⟩
    obtain ⟨metadata, upload, -⟩ := perform_outcome_eq_ok_iff.1 (result_eq ▸ h)
    refine ⟨fun selected => ?_, upload⟩
    rw [if_pos selected] at metadata
    obtain ⟨-, coordinates, ack, ready, -⟩ := metadata
    exact ⟨coordinates, ack, ready⟩
  · rintro ⟨metadata, upload⟩
    -- the report that the run comes to depends on whether there is a metadata part
    by_cases selected : parts.hasMetadata
    · obtain ⟨coordinates, ack, ready⟩ := metadata selected
      refine ⟨⟨some coordinates, some ack, parts.hasUpload⟩, perform_outcome_eq_ok_iff.2 ?_⟩
      rw [if_pos selected]
      exact ⟨⟨start, coordinates, ack, ready, rfl, rfl⟩, upload, rfl⟩
    · refine ⟨⟨none, none, parts.hasUpload⟩, perform_outcome_eq_ok_iff.2 ?_⟩
      rw [if_neg selected]
      exact ⟨⟨rfl, rfl⟩, upload, rfl⟩
  · intro report h
    obtain ⟨metadata, -, uploaded⟩ := perform_outcome_eq_ok_iff.1 (result_eq ▸ h)
    refine ⟨?_, uploaded⟩
    by_cases selected : parts.hasMetadata
    · rw [if_pos selected] at metadata ⊢
      exact metadata.2
    · rwa [if_neg selected] at metadata ⊢
  · intro failure h
    rw [h]
    exact ⟨rfl, failure.exitCode_ge_three, failure.exitCode_le_twelve⟩

/-- A release of both parts beside a hidden file, with an acknowledgement in another set of
characters than UTF-8. -/
theorem release_succeeds_iff_wheel :
    let environment : Environment := .ofList
      [("METADATA_URL", "meta.example.com:8080"), ("METADATA_USERNAME", "release-bot"),
        ("METADATA_PASSWORD", "hunter2"), ("PROD_PWD", "pypi-prod-token")]
    let wheel := "pkg-1.2.3-cp39-linux-x86_64.whl"
    let outside : Surroundings :=
      ⟨.ok [⟨.regular, Utf8.encode ".keep"⟩, ⟨.regular, wheel.toUTF8.data.toList⟩],
        .answered ⟨201, some "application/json; charset=latin1",
          [0x5b, 0x22, 0xe7, 0x61, 0x22, 0x5d], 0, .fallsSilent⟩,
        .ofWording fun _ => "connection closed", .ok ⟨some 0⟩, .done, .done⟩
    let result := (release (.read environment "dist" (.ofSeconds 5)) .all outside).outcome
    outside.transport.CanStart ∧ (∃ report, result = .ok report ∧ report.uploaded = true) ∧
      exitCode result = 0 := by
  intro environment wheel outside result
  have start : outside.transport.CanStart := Service.Transport.canStart_ofWording _
  obtain ⟨succeeds, reports, exits, -⟩ :=
    release_succeeds_iff environment "dist" (.ofSeconds 5) .all outside start
  have acknowledged : Service.Acknowledges outside.transport outside.conversation
      "meta.example.com:8080" ⟨"ça"⟩ :=
    ⟨by decide +kernel, _, ⟨Nat.zero_le _, rfl⟩, by decide, by decide, _,
      Service.Reply.text_said _ _, by decide +kernel⟩
  have ready : MetadataReady environment outside ⟨"1.2.3", "x86_64", "cp39"⟩ ⟨"ça"⟩ :=
    ⟨by decide +kernel, ⟨_, ⟨.regular, wheel.toUTF8.data.toList⟩, wheel, rfl, by decide +kernel,
      rfl, by decide +kernel⟩, _, by decide +kernel, acknowledged⟩
  have uploads : UploadReady environment outside := ⟨by decide +kernel, rfl⟩
  obtain ⟨report, ended⟩ := succeeds.2 ⟨fun _ => ⟨_, _, ready⟩, fun _ => uploads⟩
  exact ⟨start, ⟨report, ended, (reports report ended).2⟩, exits.2 ⟨report, ended⟩⟩

end Run

end PackageRelease
