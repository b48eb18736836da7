/-
PackageRelease/Proofs/Run/Isolation.lean

Inputs that a run makes no use of.

A run starts from variables, a directory, a limit of time and what it meets
outside.  Some of these inputs it makes no use of (`Setup.Ignores`):

    upload alone               the variables for the metadata service, the
                               limit of time, the service, what the
                               directory holds
    metadata alone             all other variables, the upload tool
    any run                    the token of the channel that is not selected
    both, metadata failing     as for the metadata alone

Setups that agree in all other inputs have the same run, with everything that
happens in it (`run_eq_of_agree`).
-/
import PackageRelease.Proofs.Run.Publication

namespace PackageRelease

namespace Run

/-! ### What the parts take from the settings and from outside -/

section Parts

variable {settings settings' : Settings} {outside outside' : Surroundings}

theorem publishMetadata_congr (credentials : settings.credentials = settings'.credentials)
    (dist : settings.dist = settings'.dist) (timeout : settings.timeout = settings'.timeout)
    (listing : outside.listing = outside'.listing)
    (conversation : outside.conversation = outside'.conversation)
    (transport : outside.transport = outside'.transport)
    (writing : outside.acknowledgementWriting = outside'.acknowledgementWriting) :
    publishMetadata settings outside = publishMetadata settings' outside' := by
  simp only [publishMetadata, Settings.needCredentials, credentials, dist, timeout, listing,
    conversation, transport, writing]

theorem uploadArtifact_congr (channel : settings.upload.channel = settings'.upload.channel)
    (token : settings.upload.token? settings'.upload.channel
      = settings'.upload.token? settings'.upload.channel)
    (repository : settings.upload.testRepository = settings'.upload.testRepository)
    (dist : settings.dist = settings'.dist) (tool : outside.tool = outside'.tool)
    (writing : outside.confirmationWriting = outside'.confirmationWriting) :
    uploadArtifact settings outside = uploadArtifact settings' outside' := by
  simp only [uploadArtifact, Upload.perform, Upload.select, Upload.commandLine, Upload.call,
    Upload.arguments, channel, token, repository, dist, tool, writing]

/-- A run that has not published the metadata has failed in that part. -/
theorem exists_unpublished_of_not_mem
    (unpublished : .metadataPublished ∉ (release settings .all outside).course.targets) :
    ∃ failure sofar, publishMetadata settings outside = ⟨.error failure, sofar⟩ := by
  rcases published : publishMetadata settings outside with ⟨failure | p, sofar⟩
  · exact ⟨failure, sofar, rfl⟩
  · -- a metadata part that ends well has gone all its way, and the run keeps its course
    have walked := (publishMetadata_follows settings outside).complete p (by rw [published])
    obtain ⟨after, eq⟩ := course_publishMetadata_prefix settings .all outside rfl
    refine absurd ?_ unpublished
    rw [← eq, Course.targets_append, walked]
    exact List.mem_append_left _ (by simp [metadataPath])

end Parts

/-! ### Setups -/

/-- All that a run starts from. -/
structure Setup where
  environment : Environment
  dist : String
  timeout : Duration
  outside : Surroundings

/-- The inputs of a run. -/
inductive Input where
  /-- What the environment has for a variable. -/
  | entry (v : Variable)
  /-- The path of the directory. -/
  | directory
  /-- What the directory holds. -/
  | contents
  | timeout
  | service
  | tool
  | sink
deriving DecidableEq, Repr

namespace Setup

/-- The settings of a setup. -/
def settings (setup : Setup) : Settings := .read setup.environment setup.dist setup.timeout

/-- The run of some parts. -/
def run (setup : Setup) (parts : Parts) : Attempt Report :=
  release setup.settings parts setup.outside

/-- The channel that a setup selects. -/
def channel (setup : Setup) : Channel := setup.settings.upload.channel

/-- The setups agree in an input.  A variable that is empty is as good as one that is unset. -/
def AgreeIn (setup setup' : Setup) : Input → Prop
  | .entry v => setup.environment.nonEmpty? v = setup'.environment.nonEmpty? v
  | .directory => setup.dist = setup'.dist
  | .contents => setup.outside.listing = setup'.outside.listing
  | .timeout => setup.timeout = setup'.timeout
  | .service => setup.outside.conversation = setup'.outside.conversation ∧
      setup.outside.transport = setup'.outside.transport
  | .tool => setup.outside.tool = setup'.outside.tool
  | .sink => setup.outside.acknowledgementWriting = setup'.outside.acknowledgementWriting ∧
      setup.outside.confirmationWriting = setup'.outside.confirmationWriting

/-- A run makes no use of an input. -/
inductive Ignores (setup : Setup) : Parts → Input → Prop
  | metadataVariable {v : Variable} (mem : v ∈ Credentials.needed) :
      Ignores setup .upload (.entry v)
  | timeout : Ignores setup .upload .timeout
  | service : Ignores setup .upload .service
  | contents : Ignores setup .upload .contents
  | uploadVariable {v : Variable} (mem : v ∉ Credentials.needed) :
      Ignores setup .metadata (.entry v)
  | tool : Ignores setup .metadata .tool
  | otherToken {parts : Parts} {channel : Channel} (apart : channel ≠ setup.channel) :
      Ignores setup parts (.entry channel.tokenVariable)
  | unreachedVariable {v : Variable} (mem : v ∉ Credentials.needed)
      (unpublished : .metadataPublished ∉ (setup.run .all).course.targets) :
      Ignores setup .all (.entry v)
  | unreachedTool (unpublished : .metadataPublished ∉ (setup.run .all).course.targets) :
      Ignores setup .all .tool

variable {setup setup' : Setup} {parts : Parts} {v : Variable}

/-- A run that tells the metadata service uses all variables for it. -/
theorem not_ignores_of_mem_needed (publishes : parts.hasMetadata) (mem : v ∈ Credentials.needed) :
    ¬ setup.Ignores parts (.entry v) := by
  intro ignored
  cases ignored with
  | metadataVariable => cases publishes
  | uploadVariable apart => exact apart mem
  | otherToken => exact Channel.tokenVariable_not_mem_needed _ mem
  | unreachedVariable apart => exact apart mem

/-- A run that comes to the upload uses the other variables, up to one token. -/
theorem not_ignores_of_reached (mem : v ∉ Credentials.needed)
    (reached : parts = .upload ∨
      parts = .all ∧ .metadataPublished ∈ (setup.run .all).course.targets)
    (selected : ∀ channel : Channel, channel.tokenVariable = v → channel = setup.channel) :
    ¬ setup.Ignores parts (.entry v) := by
  intro ignored
  cases ignored with
  | metadataVariable needed => exact mem needed
  | uploadVariable => simp at reached
  | otherToken apart => exact apart (selected _ rfl)
  | unreachedVariable _ unpublished => exact unpublished (by simpa using reached)

variable (agree : ∀ input, ¬ setup.Ignores parts input → setup.AgreeIn setup' input)

include agree

/-- The metadata part, where there is one, does not tell the setups apart. -/
theorem publishMetadata_eq_of_agree (publishes : parts.hasMetadata) :
    publishMetadata setup.settings setup.outside
      = publishMetadata setup'.settings setup'.outside := by
  have used {input : Input} (used : input = .timeout ∨ input = .service ∨ input = .contents) :
      ¬ setup.Ignores parts input := by
    rcases used with rfl | rfl | rfl <;> rintro ⟨⟩ <;> cases publishes
  obtain ⟨conversation, transport⟩ := agree .service (used (by simp))
  exact publishMetadata_congr
    (Credentials.ofEnvironment_congr fun v mem =>
      agree (.entry v) (not_ignores_of_mem_needed publishes mem))
    (agree .directory nofun) (agree .timeout (used (by simp)))
    (agree .contents (used (by simp))) conversation transport (agree .sink nofun).1

/-- The upload part, where it is reached, does not tell the setups apart. -/
theorem uploadArtifact_eq_of_agree
    (reached : parts = .upload ∨
      parts = .all ∧ .metadataPublished ∈ (setup.run .all).course.targets) :
    uploadArtifact setup.settings setup.outside
      = uploadArtifact setup'.settings setup'.outside := by
  have used {v : Variable} (mem : v ∉ Credentials.needed)
      (selected : ∀ channel : Channel, channel.tokenVariable = v → channel = setup.channel) :
      setup.environment.nonEmpty? v = setup'.environment.nonEmpty? v :=
    agree (.entry v) (not_ignores_of_reached mem reached selected)
  have channel : setup.channel = setup'.channel :=
    UploadSettings.channel_congr (used (by decide) (by rintro ⟨⟩ ⟨⟩))
      (used (by decide) (by rintro ⟨⟩ ⟨⟩))
  have token : setup.environment.nonEmpty? setup.channel.tokenVariable
      = setup'.environment.nonEmpty? setup.channel.tokenVariable :=
    used (Channel.tokenVariable_not_mem_needed _) fun _ => Channel.tokenVariable_injective
  have tool : ¬ setup.Ignores parts .tool := by
    intro ignored
    cases ignored with
    | tool => simp at reached
    | unreachedTool unpublished => exact unpublished (by simpa using reached)
  refine uploadArtifact_congr channel ?_
    (UploadSettings.testRepository_congr (used (by decide) (by rintro ⟨⟩ ⟨⟩)))
    (agree .directory nofun) (agree .tool tool) (agree .sink nofun).2
  show (UploadSettings.ofEnvironment _).token? setup'.channel
    = (UploadSettings.ofEnvironment _).token? setup'.channel
  rw [UploadSettings.token?_ofEnvironment, UploadSettings.token?_ofEnvironment, ← channel, token]

end Setup

/-- **A run does not depend on inputs that it makes no use of.**  If two setups agree in all other
inputs then their runs are the same, in their end and in all that happens until then: steps, log,
output, requests and calls. -/
theorem run_eq_of_agree {setup setup' : Setup} {parts : Parts}
    (agree : ∀ input, ¬ setup.Ignores parts input → setup.AgreeIn setup' input) :
    setup.run parts = setup'.run parts := by
  cases parts with
  | upload =>
    have upload := Setup.uploadArtifact_eq_of_agree agree (.inl rfl)
    simp only [Setup.run, release, perform_upload, upload]
  | metadata =>
    have metadata := Setup.publishMetadata_eq_of_agree agree rfl
    simp only [Setup.run, release, perform_metadata, metadata]
  | all =>
    have metadata := Setup.publishMetadata_eq_of_agree agree rfl
    by_cases published : .metadataPublished ∈ (setup.run .all).course.targets
    · have upload := Setup.uploadArtifact_eq_of_agree agree (.inr ⟨rfl, published⟩)
      simp only [Setup.run, release, perform_all, metadata, upload]
    · -- the upload is not reached, and what agrees or not in its inputs does not come in
      obtain ⟨failure, sofar, unpublished⟩ := exists_unpublished_of_not_mem published
      rw [Setup.run, Setup.run, release_of_unpublished rfl unpublished,
        release_of_unpublished rfl (metadata.symm.trans unpublished)]

/-- An upload to the index for tests, with nothing there for the metadata service and with all of
it; and runs of both parts over an empty directory, with a tool and a token and without them. -/
theorem run_eq_of_agree_testIndex :
    let ready : Setup := ⟨.ofList [("METADATA_URL", "meta.example.com"),
        ("METADATA_USERNAME", "release-bot"), ("METADATA_PASSWORD", "hunter2"),
        ("PROJECT_NAME", "demo"), ("NIGHT_PWD", "pypi-token")], "dist", .ofSeconds 5,
      ⟨.ok [], .hungUp, .ofWording fun _ => "connection closed", .ok ⟨some 0⟩, .done, .done⟩⟩
    let bare : Setup := ⟨.ofList [("PROD_PWD", "other"), ("PROJECT_NAME", "demo"),
        ("NIGHT_PWD", "pypi-token")], "dist", .ofSeconds 1,
      ⟨.error .notFound, .silent, .ofWording fun _ => "broken pipe", .ok ⟨some 0⟩, .done, .done⟩⟩
    let toolless : Setup := ⟨.ofList [("METADATA_URL", "meta.example.com"),
        ("METADATA_USERNAME", "release-bot"), ("METADATA_PASSWORD", "hunter2")], "dist",
      .ofSeconds 5, ⟨.ok [], .hungUp, .ofWording fun _ => "connection closed",
        .error (.failed "No such file or directory (os error 2)"), .done, .done⟩⟩
    ready.run .upload = bare.run .upload ∧
      (ready.run .upload).outcome = .ok ⟨none, none, true⟩ ∧
      ready.run .all = toolless.run .all ∧
      (ready.run .all).outcome = .error (.noArtifact "dist") := by
  intro ready bare toolless
  refine ⟨run_eq_of_agree fun input used => ?_, by decide +kernel,
    run_eq_of_agree fun input used => ?_, by decide +kernel⟩
  · cases input with
    | entry v =>
      by_cases mem : v ∈ Credentials.needed
      · exact absurd (.metadataVariable mem) used
      · cases v with
        | productionToken =>
          have apart : Channel.production ≠ ready.channel := by decide +kernel
          exact absurd (.otherToken apart) used
        | metadataUrl | metadataUsername | metadataPassword => exact absurd (by decide) mem
        | _ => show _ = _; decide +kernel
    | timeout => exact absurd .timeout used
    | contents => exact absurd .contents used
    | service => exact absurd .service used
    | sink => exact ⟨rfl, rfl⟩
    | _ => exact rfl
  · have unpublished : .metadataPublished ∉ (ready.run .all).course.targets := by decide +kernel
    cases input with
    | entry v =>
      by_cases mem : v ∈ Credentials.needed
      · cases v with
        | metadataUrl | metadataUsername | metadataPassword => show _ = _; decide +kernel
        | _ => exact absurd mem (by decide)
      · exact absurd (.unreachedVariable mem unpublished) used
    | tool => exact absurd (.unreachedTool unpublished) used
    | service | sink => exact ⟨rfl, rfl⟩
    | _ => exact rfl

end Run

end PackageRelease
