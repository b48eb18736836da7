/-
PackageRelease/Proofs/Secrecy/Password.lean

Nothing that a run shows tells of the password but the authorization of its
request.

Two environments that differ in the password, and in nothing else, give two
runs.  Step by step the runs do the same; only where a request is made do the
two authorizations differ (`release_shows_no_password`).
-/
import PackageRelease.Proofs.Run.Resemblance

namespace PackageRelease

/-- The requests differ in the authorization at most. -/
def Service.Request.SameButAuthorization (request request' : Request) : Prop :=
  { request with authorization := request'.authorization } = request'

/-- Requests differ in the authorization at most, and calls do not differ. -/
def butAuthorization : Likeness where
  request := Service.Request.SameButAuthorization
  call := Eq

/-! ### Settings -/

section Settings

variable {environment environment' : Environment}
variable (agree : environment.AgreeBut .metadataPassword environment')

include agree

theorem UploadSettings.ofEnvironment_eq_of_agreeBut_password :
    ofEnvironment environment = ofEnvironment environment' := by
  simp only [ofEnvironment, agree.nonEmpty?_eq (w := .projectName) (by decide),
    agree.nonEmpty?_eq (w := .primaryProject) (by decide),
    agree.nonEmpty?_eq (w := .testRepository) (by decide),
    agree.apply_eq (w := .productionToken) (by decide),
    agree.apply_eq (w := .nightlyToken) (by decide)]

end Settings

/-! ### Sending -/

namespace Service

variable {request request' : Request} {left : Nat}

/-- Redirects add no other difference. -/
theorem Request.SameButAuthorization.redirected (same : request.SameButAuthorization request')
    (redirect : Redirect) :
    (request.redirected redirect).SameButAuthorization (request'.redirected redirect) := by
  rw [← same]
  rfl

/-- What is read of two requests that differ in the authorization at most differs no more. -/
theorem forall₂_sameButAuthorization_requests (conversation : Conversation)
    (same : request.SameButAuthorization request') :
    List.Forall₂ Request.SameButAuthorization (conversation.requests left request)
      (conversation.requests left request') := by
  induction conversation generalizing left request request' with
  | refused | ignored | unread => exact .nil
  | silent | hungUp | garbled | answered => exact .cons same .nil
  | redirected redirect next ih =>
    cases left with
    | zero => exact .cons same .nil
    | succ left => exact .cons same (ih (same.redirected redirect))

/-- What is sent for two passwords differs in the authorization at most. -/
theorem resembles_submit (transport : Transport) (conversation : Conversation)
    (username host : String) (password password' : Secret) (limit : Duration)
    (coordinates : Coordinates) :
    (submit transport conversation ⟨username, password, host⟩ limit coordinates).Resembles
      butAuthorization Eq
      (submit transport conversation ⟨username, password', host⟩ limit coordinates) := by
  have conversed : (converse transport (endpoint host) limit conversation).Resembles
      butAuthorization Eq (converse transport (endpoint host) limit conversation) :=
    .self_of_eq_nil requests_course_converse isQuiet_course_converse.calls_eq_nil
  have started : (Attempt.ofExcept (transport.setUp.mapError Failure.request)).Resembles
      butAuthorization Eq (Attempt.ofExcept (transport.setUp.mapError Failure.request)) :=
    .self_of_eq_nil rfl rfl
  apply started.bind
  rintro - - -
  refine .happen_bind (.note _) ?_
  -- the address does not depend on the password
  dsimp only
  split
  · exact .error .nil
  · refine .happenAll_bind ?_ conversed
    refine List.rel_map (fun _ _ same => .request same) ?_
    exact forall₂_sameButAuthorization_requests conversation rfl

end Service

/-! ### Runs -/

namespace Run

variable {settings settings' : Settings} {outside : Surroundings}

theorem publishMetadata_of_unconfigured {failure : Failure}
    (unconfigured : settings.needCredentials = .error failure) :
    publishMetadata settings outside = ⟨.error failure, []⟩ := by
  unfold publishMetadata
  rw [unconfigured]
  rfl

/-- The metadata parts for two passwords resemble each other. -/
theorem resembles_publishMetadata {username host : String} {password password' : Secret}
    (credentials : settings.needCredentials = .ok ⟨username, password, host⟩)
    (credentials' : settings'.needCredentials = .ok ⟨username, password', host⟩)
    (dist : settings.dist = settings'.dist) (timeout : settings.timeout = settings'.timeout) :
    (publishMetadata settings outside).Resembles butAuthorization Eq
      (publishMetadata settings' outside) := by
  have looked : (extractCoordinates settings'.dist outside.listing).Resembles butAuthorization Eq
      (extractCoordinates settings'.dist outside.listing) :=
    .self_of_eq_nil (requests_course_extractCoordinates _ _)
      (isQuiet_course_extractCoordinates _ _).calls_eq_nil
  unfold publishMetadata
  rw [credentials, credentials', dist, timeout, Attempt.ofExcept_ok, Attempt.ofExcept_ok,
    pure_bind, pure_bind]
  refine .happen_bind (.step _) ?_
  apply looked.bind
  rintro coordinates _ rfl
  refine .happen_bind (.step _) ?_
  apply (Service.resembles_submit ..).bind
  rintro ack _ rfl
  refine .happen_bind (.step _) ?_
  refine .happen_bind (.note _) ?_
  refine .happen_bind (.line _ _) ?_
  exact .ok rfl .nil

variable {environment environment' : Environment} {password password' : String}

/-- The metadata parts in two environments that differ in the password resemble each other. -/
theorem resembles_publishMetadata_read
    (agree : environment.AgreeBut .metadataPassword environment')
    (set : environment.nonEmpty? .metadataPassword = some password)
    (set' : environment'.nonEmpty? .metadataPassword = some password') (dist : String)
    (timeout : Duration) (outside : Surroundings) :
    (publishMetadata (.read environment dist timeout) outside).Resembles butAuthorization Eq
      (publishMetadata (.read environment' dist timeout) outside) := by
  have url := agree.nonEmpty?_eq (w := .metadataUrl) (by decide)
  have user := agree.nonEmpty?_eq (w := .metadataUsername) (by decide)
  have pass : (environment.nonEmpty? .metadataPassword).isSome ↔
      (environment'.nonEmpty? .metadataPassword).isSome := by simp [set, set']
  rcases Credentials.ofEnvironment_congr_but_password url user pass with
    ⟨v, refused, refused'⟩ | ⟨username, _, _, host, found, found'⟩
  · have unconfigured : (Settings.read environment dist timeout).needCredentials
        = .error (.missingConfig v.name) :=
      mapError_eq_error_iff.2 ⟨v, refused, rfl⟩
    have unconfigured' : (Settings.read environment' dist timeout).needCredentials
        = .error (.missingConfig v.name) :=
      mapError_eq_error_iff.2 ⟨v, refused', rfl⟩
    rw [publishMetadata_of_unconfigured unconfigured, publishMetadata_of_unconfigured unconfigured']
    exact .error .nil
  · exact resembles_publishMetadata (Settings.needCredentials_eq_ok_iff.2 found)
      (Settings.needCredentials_eq_ok_iff.2 found') rfl rfl

/-- The upload takes no notice of the password. -/
theorem uploadArtifact_read_eq (agree : environment.AgreeBut .metadataPassword environment')
    (dist : String) (timeout : Duration) (outside : Surroundings) :
    uploadArtifact (.read environment dist timeout) outside
      = uploadArtifact (.read environment' dist timeout) outside := by
  simp only [uploadArtifact, Settings.read, Settings.ofEnvironment,
    UploadSettings.ofEnvironment_eq_of_agreeBut_password agree]

/-- **No run shows the password, but for the authorization of its request.**  In two environments
that differ in the password and in nothing else, and in the same surroundings, runs of the same
parts end alike, take their machine the same way, put out and log the same, and call the upload
tool in the same way; and the requests that the metadata service reads differ in nothing but the
authorization. -/
theorem release_shows_no_password {environment environment' : Environment}
    {password password' : String}
    (agree : environment.AgreeBut .metadataPassword environment')
    (set : environment Variable.metadataPassword.name = some password) (nonempty : password ≠ "")
    (set' : environment' Variable.metadataPassword.name = some password')
    (nonempty' : password' ≠ "") (dist : String) (timeout : Duration) (parts : Parts)
    (outside : Surroundings) (machine : Machine) :
    let run := release (.read environment dist timeout) parts outside
    let run' := release (.read environment' dist timeout) parts outside
    run.outcome = run'.outcome ∧
      machine.takeAll run.course.steps = machine.takeAll run'.course.steps ∧
      run.course.output = run'.course.output ∧
      run.course.log machine.state = run'.course.log machine.state ∧
      run.course.calls = run'.course.calls ∧
      List.Forall₂ Service.Request.SameButAuthorization run.course.requests
        run'.course.requests := by
  intro run run'
  have metadata := resembles_publishMetadata_read agree
    (Environment.nonEmpty?_of_eq_some set nonempty)
    (Environment.nonEmpty?_of_eq_some set' nonempty') dist timeout outside
  have upload : (uploadArtifact (.read environment dist timeout) outside).Resembles
      butAuthorization Eq (uploadArtifact (.read environment' dist timeout) outside) := by
    rw [uploadArtifact_read_eq agree]
    exact .self (fun _ _ => rfl) fun _ _ => rfl
  have alike : run.Resembles butAuthorization Eq run' := resembles_release metadata upload parts
  obtain ⟨outcomes, machines, outputs, logs⟩ := alike.seen_eq machine
  refine ⟨outcomes, machines, outputs, logs, ?_, alike.course.requests⟩
  exact List.forall₂_eq_eq_eq ▸ alike.course.calls

/-- Two passwords, and a service that hangs up once it has read the request: the authorizations
differ, and nothing else does. -/
theorem release_shows_no_password_hangingUp :
    let environment (password : String) : Environment := .ofList
      [("METADATA_URL", "meta.example.com:8080"), ("METADATA_USERNAME", "release-bot"),
        ("METADATA_PASSWORD", password)]
    let outside : Surroundings := ⟨.ok [.ofLine "pkg-1.2.3-cp39-linux-x86_64.whl"], .hungUp,
      .ofWording fun _ => "connection closed", .ok ⟨some 0⟩, .done, .done⟩
    let run (password : String) := release (.read (environment password) "dist" (.ofSeconds 5)) .all
      outside
    (environment "hunter2").AgreeBut .metadataPassword (environment "swordfish") ∧
      (run "hunter2").outcome = (run "swordfish").outcome ∧
      (run "hunter2").course.requests.map (·.authorization)
        = [some "Basic cmVsZWFzZS1ib3Q6aHVudGVyMg=="] ∧
      (run "swordfish").course.requests.map (·.authorization)
        = [some "Basic cmVsZWFzZS1ib3Q6c3dvcmRmaXNo"] ∧
      List.Forall₂ Service.Request.SameButAuthorization (run "hunter2").course.requests
        (run "swordfish").course.requests := by
  intro environment outside run
  have agree : (environment "hunter2").AgreeBut .metadataPassword (environment "swordfish") :=
    Environment.agreeBut_ofList
      [("METADATA_URL", "meta.example.com:8080"), ("METADATA_USERNAME", "release-bot")] []
  obtain ⟨outcomes, -, -, -, -, requests⟩ := release_shows_no_password agree rfl (by decide) rfl
    (by decide) "dist" (.ofSeconds 5) .all outside {}
  exact ⟨agree, outcomes, by decide +kernel, by decide +kernel, requests⟩

end Run

end PackageRelease
