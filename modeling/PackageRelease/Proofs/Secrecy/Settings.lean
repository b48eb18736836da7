/-
PackageRelease/Proofs/Secrecy/Settings.lean

What shown settings tell of their secrets.

Of a secret they tell whether it is there, and nothing else:

    password   a placeholder, or the name of its variable where that is the
               first one that is missing for the metadata service
    token      a placeholder, also for one that is empty, or that there is none

So settings are shown as they are without their secrets (`Settings.redacted`),
and of settings for one directory and one limit of time those are shown alike
that are the same without their secrets (`Settings.outline_eq_iff`).
Environments in which the same secrets are set, to whatever values, and that
agree in all other variables give such settings (`outline_shows_no_secret`).
-/
import PackageRelease.Proofs.Settings

namespace PackageRelease

/-! ### Settings without their secrets -/

/-- The credentials with a placeholder for the password. -/
def Credentials.redacted (credentials : Credentials) : Credentials :=
  { credentials with password := ⟨Secret.placeholder⟩ }

/-- A placeholder for a token, where there is one. -/
def UploadSettings.redactedToken (token : Option Secret) : Option Secret :=
  token.map fun _ => ⟨Secret.placeholder⟩

/-- The settings for the upload with placeholders for the tokens. -/
def UploadSettings.redacted (settings : UploadSettings) : UploadSettings :=
  { settings with
    productionToken := redactedToken settings.productionToken
    nightlyToken := redactedToken settings.nightlyToken }

/-- The settings with placeholders for all secrets. -/
def Settings.redacted (settings : Settings) : Settings :=
  { settings with
    credentials := settings.credentials.map Credentials.redacted
    upload := settings.upload.redacted }

/-! ### What is shown -/

theorem Credentials.outline_eq_iff {credentials credentials' : Credentials} :
    credentials.outline = credentials'.outline ↔ credentials.redacted = credentials'.redacted := by
  simp [outline, redacted]

theorem UploadSettings.tokenOutline_eq_iff {token token' : Option Secret} :
    tokenOutline token = tokenOutline token' ↔ redactedToken token = redactedToken token' := by
  cases token <;> cases token' <;> simp [tokenOutline, redactedToken, Outline.optional]

theorem UploadSettings.outline_eq_iff {settings settings' : UploadSettings} :
    settings.outline = settings'.outline ↔ settings.redacted = settings'.redacted := by
  simp [outline, redacted, tokenOutline_eq_iff]

/-- Settings for one directory and one limit of time are shown alike exactly if they are the same
without their secrets. -/
theorem Settings.outline_eq_iff {settings settings' : Settings}
    (dist : settings.dist = settings'.dist) (timeout : settings.timeout = settings'.timeout) :
    settings.outline = settings'.outline ↔ settings.redacted = settings'.redacted := by
  have named {v w : Variable} : v.name = w.name ↔ v = w := ⟨Variable.name_injective, congrArg _⟩
  rcases found : settings.credentials with v | credentials <;>
    rcases found' : settings'.credentials with v' | credentials' <;>
    simp [outline, redacted, Except.map, dist, timeout, found, found', named,
      Credentials.outline_eq_iff, UploadSettings.outline_eq_iff]

/-! ### Environments -/

/-- The variables that hold a secret. -/
def Variable.secrets : List Variable := [metadataPassword, productionToken, nightlyToken]

/-- The environments agree in all variables of a release that hold no secret, and the same secrets
are set in both.  A password that is empty counts as unset. -/
structure Environment.AgreeButSecrets (environment environment' : Environment) : Prop where
  apply_eq : ∀ v ∉ Variable.secrets, environment v.name = environment' v.name
  password_iff : (environment.nonEmpty? .metadataPassword).isSome ↔
    (environment'.nonEmpty? .metadataPassword).isSome
  token_iff : ∀ channel : Channel, (environment channel.tokenVariable.name).isSome ↔
    (environment' channel.tokenVariable.name).isSome

section Agreement

variable {environment environment' : Environment} (agree : environment.AgreeButSecrets environment')

include agree

theorem Environment.AgreeButSecrets.nonEmpty?_eq {v : Variable} (apart : v ∉ Variable.secrets) :
    environment.nonEmpty? v = environment'.nonEmpty? v := by
  rw [nonEmpty?, nonEmpty?, agree.apply_eq v apart]

theorem Credentials.map_redacted_ofEnvironment :
    (ofEnvironment environment).map redacted = (ofEnvironment environment').map redacted := by
  have url := agree.nonEmpty?_eq (v := .metadataUrl) (by decide)
  have user := agree.nonEmpty?_eq (v := .metadataUsername) (by decide)
  rcases ofEnvironment_congr_but_password url user agree.password_iff with
    ⟨v, refused, refused'⟩ | ⟨username, password, password', host, found, found'⟩
  · rw [refused, refused']
  · rw [found, found']
    rfl

theorem UploadSettings.redacted_ofEnvironment :
    (ofEnvironment environment).redacted = (ofEnvironment environment').redacted := by
  have token (channel : Channel) :
      redactedToken ((environment channel.tokenVariable.name).map Secret.mk)
        = redactedToken ((environment' channel.tokenVariable.name).map Secret.mk) := by
    have present := agree.token_iff channel
    cases set : environment channel.tokenVariable.name <;>
      cases set' : environment' channel.tokenVariable.name <;>
      simp [redactedToken, set, set'] at present ⊢
  simp only [redacted, ofEnvironment, mk.injEq, agree.nonEmpty?_eq (v := .projectName) (by decide),
    agree.nonEmpty?_eq (v := .primaryProject) (by decide),
    agree.nonEmpty?_eq (v := .testRepository) (by decide), true_and]
  exact ⟨token .production, token .test⟩

end Agreement

/-! ### Texts -/

/-- **Shown settings tell of a secret whether it is there, and nothing else.**  In two environments
that agree in what is no secret, and in which the same secrets are set, the settings for one
directory and one limit of time are shown alike, on one line and over several. -/
theorem outline_shows_no_secret {environment environment' : Environment}
    (agree : environment.AgreeButSecrets environment') (dist : String) (timeout : Duration) :
    let settings : Settings := .read environment dist timeout
    let settings' : Settings := .read environment' dist timeout
    settings.outline.compact = settings'.outline.compact ∧
      settings.outline.indented = settings'.outline.indented := by
  intro settings settings'
  have redacted : settings.redacted = settings'.redacted := by
    show Settings.mk dist timeout _ _ = Settings.mk dist timeout _ _
    congr 1
    · exact Credentials.map_redacted_ofEnvironment agree
    · exact UploadSettings.redacted_ofEnvironment agree
  have same_dist : settings.dist = settings'.dist := rfl
  have same_timeout : settings.timeout = settings'.timeout := rfl
  have shown := (Settings.outline_eq_iff same_dist same_timeout).2 redacted
  exact ⟨congrArg Outline.compact shown, congrArg Outline.indented shown⟩

/-- Another password, another token for releases and an empty one for tests: nothing of that is
shown. -/
theorem outline_shows_no_secret_tokens :
    let environment : Environment := .ofList [("METADATA_URL", "meta.example.com:8080"),
      ("METADATA_USERNAME", "release-bot"), ("METADATA_PASSWORD", "hunter2"),
      ("PROD_PWD", "pypi-prod-token"), ("NIGHT_PWD", "pypi-nightly-token"), ("HOME", "/root")]
    let environment' : Environment := .ofList [("METADATA_URL", "meta.example.com:8080"),
      ("METADATA_USERNAME", "release-bot"), ("METADATA_PASSWORD", "swordfish"),
      ("PROD_PWD", "pypi-other-token"), ("NIGHT_PWD", "")]
    let settings : Settings := .read environment "dist" (.ofSeconds 5)
    let settings' : Settings := .read environment' "dist" (.ofSeconds 5)
    environment.AgreeButSecrets environment' ∧
      settings.outline.compact = settings'.outline.compact ∧
      settings.outline.indented = settings'.outline.indented ∧
      settings.outline.compact
        = "ReleaseConfig \x7b dist_dir: \"dist\", metadata_timeout: 5s, " ++
          "metadata: Ok(PublishCredentials \x7b username: \"release-bot\", " ++
          "password: \"[REDACTED]\", endpoint_host: \"meta.example.com:8080\" \x7d), " ++
          "upload: UploadSettings \x7b project_name: \"taichi\", primary_project: \"taichi\", " ++
          "test_repository: \"testpypi\", prod_token: Some(\"[REDACTED]\"), " ++
          "nightly_token: Some(\"[REDACTED]\") \x7d \x7d" := by
  intro environment environment' settings settings'
  have agree : environment.AgreeButSecrets environment' := by
    refine ⟨fun v apart => ?_, by decide, fun channel => ?_⟩
    · cases v <;> first | rfl | exact absurd (by decide) apart
    · cases channel <;> decide
  obtain ⟨compact, indented⟩ := outline_shows_no_secret agree "dist" (.ofSeconds 5)
  exact ⟨agree, compact, indented, by decide +kernel⟩

end PackageRelease
