/-
PackageRelease/Settings.lean

The settings of a release, read once from an environment.

A variable that is empty counts as unset, but for the two tokens: of those the
settings keep what was read, and whether the one that is needed is there is
decided when it is needed.  Likewise the settings keep which of the variables
for the metadata service is the first that is missing.

`Settings.outline` shows everything but the secrets; of those it shows whether
they are set.
-/
import PackageRelease.Failure
import PackageRelease.Secret
import PackageRelease.Settings.Channel

namespace PackageRelease

/-! ### Settings -/

/-- What the metadata service is asked with. -/
structure Credentials where
  username : String
  password : Secret
  /-- Host and perhaps port of the service. -/
  host : String
deriving DecidableEq

/-- The settings for the upload. -/
structure UploadSettings where
  project : String
  primaryProject : String
  testRepository : String
  productionToken : Option Secret
  nightlyToken : Option Secret
deriving DecidableEq

/-- The settings of a release. -/
structure Settings where
  /-- The directory of the artifact. -/
  dist : String
  /-- How long the metadata service may take. -/
  timeout : Duration
  /-- The credentials for the metadata service, or the variable that is missing for them. -/
  credentials : Except Variable Credentials
  upload : UploadSettings

/-! ### Defaults -/

namespace Settings

/-- The primary project where none is named. -/
def defaultPrimaryProject : String := "taichi"

/-- The index for tests where none is named. -/
def defaultTestRepository : String := "testpypi"

/-- The directory of the artifact where none is named. -/
def defaultDist : String := "dist"

/-- How long the metadata service may take where nothing is said. -/
def defaultTimeout : Duration := .ofSeconds 5

end Settings

/-! ### From an environment -/

/-- The credentials in an environment, or the first variable that is missing. -/
def Credentials.ofEnvironment (environment : Environment) : Except Variable Credentials := do
  let need (v : Variable) : Except Variable String :=
    match environment.nonEmpty? v with
    | some value => .ok value
    | none => .error v
  let host ← need .metadataUrl
  let username ← need .metadataUsername
  let password ← need .metadataPassword
  return ⟨username, ⟨password⟩, host⟩

namespace UploadSettings

/-- The settings for the upload in an environment. -/
def ofEnvironment (environment : Environment) : UploadSettings :=
  let primary := (environment.nonEmpty? .primaryProject).getD Settings.defaultPrimaryProject
  { project := (environment.nonEmpty? .projectName).getD primary
    primaryProject := primary
    testRepository := (environment.nonEmpty? .testRepository).getD Settings.defaultTestRepository
    productionToken := (environment Variable.productionToken.name).map Secret.mk
    nightlyToken := (environment Variable.nightlyToken.name).map Secret.mk }

/-- The channel of the upload. -/
def channel (settings : UploadSettings) : Channel :=
  .ofProject settings.project settings.primaryProject

/-- The token of a channel, if it is set and not empty. -/
def token? (settings : UploadSettings) (channel : Channel) : Option Secret :=
  let token :=
    match channel with
    | .production => settings.productionToken
    | .test => settings.nightlyToken
  token.filter fun secret => !secret.exposed.isEmpty

end UploadSettings

namespace Settings

/-- The settings in an environment. -/
def ofEnvironment (environment : Environment) : Settings where
  dist := defaultDist
  timeout := defaultTimeout
  credentials := Credentials.ofEnvironment environment
  upload := .ofEnvironment environment

/-- The settings in an environment, for the artifact in a directory and with a limit of time. -/
def read (environment : Environment) (dist : String) (timeout : Duration) : Settings :=
  { ofEnvironment environment with dist := dist, timeout := timeout }

/-- The credentials for the metadata service. -/
def needCredentials (settings : Settings) : Except Failure Credentials :=
  settings.credentials.mapError fun v => .missingConfig v.name

end Settings

/-! ### For the operator -/

/-- The credentials without the password. -/
def Credentials.outline (credentials : Credentials) : Outline :=
  .record "PublishCredentials"
    [("username", .quoted credentials.username), ("password", .quoted Secret.placeholder),
      ("endpoint_host", .quoted credentials.host)]

/-- Whether a token is set. -/
def UploadSettings.tokenOutline (token : Option Secret) : Outline :=
  .optional (token.map fun _ => .quoted Secret.placeholder)

/-- The settings for the upload without the tokens. -/
def UploadSettings.outline (settings : UploadSettings) : Outline :=
  .record "UploadSettings"
    [("project_name", .quoted settings.project),
      ("primary_project", .quoted settings.primaryProject),
      ("test_repository", .quoted settings.testRepository),
      ("prod_token", tokenOutline settings.productionToken),
      ("nightly_token", tokenOutline settings.nightlyToken)]

/-- The settings without the secrets. -/
def Settings.outline (settings : Settings) : Outline :=
  .record "ReleaseConfig"
    [("dist_dir", .quoted settings.dist),
      ("metadata_timeout", .word settings.timeout.text),
      ("metadata",
        match settings.credentials with
        | .ok credentials => .wrapped "Ok" credentials.outline
        | .error v => .wrapped "Err" (.quoted v.name)),
      ("upload", settings.upload.outline)]

end PackageRelease
