/-
PackageRelease/Proofs/Run/EmptyVariables.lean

Variables that are set to nothing.

A variable that is empty counts as unset, and a variable that no release knows
of has no say.  Settings do tell an empty token from one that is unset:

    PROD_PWD            empty           unset
    productionToken     some ⟨""⟩       none
    token?              none            none

but what a run takes from settings is the same (`Settings.Alike`).  So an
environment can be rid of its empty variables, and be changed in all variables
that are unknown, and every run and every series of runs stays as it is, with
all that happens in it (`runs_eq_of_isRidOf`).
-/
import PackageRelease.Proofs.Run.Isolation
import PackageRelease.Run.Series

namespace PackageRelease

/-! ### Environments without empty variables -/

namespace Environment

/-- Of the variables that have a say in a release, `rid` has those that are not empty, with the
values that they have in `environment`.  Other variables may be anything in both. -/
def IsRidOf (rid environment : Environment) : Prop :=
  ∀ v : Variable, rid v.name = environment.nonEmpty? v

theorem IsRidOf.nonEmpty?_eq {rid environment : Environment} (removed : rid.IsRidOf environment)
    (v : Variable) : rid.nonEmpty? v = environment.nonEmpty? v := by
  rw [nonEmpty?, removed v, nonEmpty?, Option.filter_filter]
  simp only [Bool.and_self]

end Environment

/-! ### Settings that no run tells apart -/

namespace Settings

/-- The settings are the same in all that a run takes from them. -/
structure Alike (settings settings' : Settings) : Prop where
  dist_eq : settings.dist = settings'.dist
  timeout_eq : settings.timeout = settings'.timeout
  credentials_eq : settings.credentials = settings'.credentials
  channel_eq : settings.upload.channel = settings'.upload.channel
  token?_eq : ∀ channel, settings.upload.token? channel = settings'.upload.token? channel
  testRepository_eq : settings.upload.testRepository = settings'.upload.testRepository

/-- Environments that agree in what is not empty give such settings. -/
theorem alike_read {environment environment' : Environment}
    (same : ∀ v, environment.nonEmpty? v = environment'.nonEmpty? v) (dist : String)
    (timeout : Duration) :
    (read environment dist timeout).Alike (read environment' dist timeout) where
  dist_eq := rfl
  timeout_eq := rfl
  credentials_eq := Credentials.ofEnvironment_congr fun v _ => same v
  channel_eq := UploadSettings.channel_congr (same .projectName) (same .primaryProject)
  token?_eq := fun channel => by
    show (UploadSettings.ofEnvironment _).token? channel
      = (UploadSettings.ofEnvironment _).token? channel
    rw [UploadSettings.token?_ofEnvironment, UploadSettings.token?_ofEnvironment, same]
  testRepository_eq := UploadSettings.testRepository_congr (same .testRepository)

end Settings

namespace Run

section Alike

variable {settings settings' : Settings} (alike : settings.Alike settings')

include alike

theorem release_congr (parts : Parts) (outside : Surroundings) :
    release settings parts outside = release settings' parts outside := by
  have metadata : publishMetadata settings outside = publishMetadata settings' outside :=
    publishMetadata_congr alike.credentials_eq alike.dist_eq alike.timeout_eq rfl rfl rfl rfl
  have upload : uploadArtifact settings outside = uploadArtifact settings' outside :=
    uploadArtifact_congr alike.channel_eq (alike.token?_eq _) alike.testRepository_eq
      alike.dist_eq rfl rfl
  simp only [release, perform, metadata, upload]

theorem sequenceFrom_congr (machine : Machine) (runs : List (Parts × Surroundings)) :
    sequenceFrom settings machine runs = sequenceFrom settings' machine runs := by
  induction runs generalizing machine with
  | nil => rfl
  | cons run runs ih => rw [sequenceFrom, sequenceFrom, release_congr alike, ih]

/-- Runs that do the same use up the same of a script. -/
theorem encounters_congr (script : Script) (progress : Progress) (parts : List Parts) :
    script.encounters settings progress parts = script.encounters settings' progress parts := by
  induction parts generalizing progress with
  | nil => rfl
  | cons part parts ih => rw [Script.encounters, Script.encounters, release_congr alike, ih]

theorem series_congr (script : Script) (parts : List Parts) :
    series settings script parts = series settings' script parts := by
  rw [series, series, encounters_congr alike, sequence, sequence, sequenceFrom_congr alike]

end Alike

/-! ### Runs -/

/-- **Empty means unset.**  No run tells an environment from one that is rid of the empty variables
and has any other variables that no release knows of: it ends in the same way, and the same
happens in it until then.  Nor does a series of runs, whether its runs meet given surroundings or
follow a script: its machine goes through the same, and its runs have the same log. -/
theorem runs_eq_of_isRidOf {environment rid : Environment} (removed : rid.IsRidOf environment)
    (dist : String) (timeout : Duration) :
    let settings : Settings := .read environment dist timeout
    let settings' : Settings := .read rid dist timeout
    (∀ parts outside, release settings parts outside = release settings' parts outside) ∧
    (∀ machine runs, sequenceFrom settings machine runs = sequenceFrom settings' machine runs) ∧
    ∀ script parts, series settings script parts = series settings' script parts := by
  intro settings settings'
  have alike : settings.Alike settings' :=
    Settings.alike_read (fun v => (removed.nonEmpty?_eq v).symm) dist timeout
  exact ⟨release_congr alike, sequenceFrom_congr alike, series_congr alike⟩

/-- A project without a name is the primary project, whose token is set, and a service without an
address is not asked: so it is with the empty variables, and so it is without them. -/
theorem runs_eq_of_isRidOf_nameless :
    let environment : Environment := .ofList [("METADATA_URL", ""),
      ("METADATA_USERNAME", "release-bot"), ("PROJECT_NAME", ""),
      ("RELEASE_PRIMARY_PROJECT", "demo"), ("PROD_PWD", "pypi-token"), ("NIGHT_PWD", ""),
      ("HOME", "")]
    let rid : Environment := .ofList [("LANG", "C"), ("METADATA_USERNAME", "release-bot"),
      ("RELEASE_PRIMARY_PROJECT", "demo"), ("PROD_PWD", "pypi-token")]
    let settings : Settings := .read environment "dist" (.ofSeconds 5)
    let settings' : Settings := .read rid "dist" (.ofSeconds 5)
    let outside : Surroundings :=
      ⟨.ok [], .hungUp, .ofWording fun _ => "connection closed", .ok ⟨some 0⟩, .done, .done⟩
    rid.IsRidOf environment ∧ settings.upload ≠ settings'.upload ∧
      settings.upload.channel = .production ∧
      release settings .upload outside = release settings' .upload outside ∧
      (release settings .upload outside).outcome = .ok ⟨none, none, true⟩ ∧
      release settings .all outside = release settings' .all outside ∧
      (release settings .all outside).outcome = .error (.missingConfig "METADATA_URL") := by
  intro environment rid settings settings' outside
  have removed : rid.IsRidOf environment := by
    intro v
    cases v <;> decide +kernel
  have same := (runs_eq_of_isRidOf removed "dist" (.ofSeconds 5)).1
  exact ⟨removed, by decide +kernel, by decide +kernel, same .upload outside, by decide +kernel,
    same .all outside, by decide +kernel⟩

end Run

end PackageRelease
