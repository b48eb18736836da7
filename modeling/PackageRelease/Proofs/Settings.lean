/-
PackageRelease/Proofs/Settings.lean

What settings hold of the environment that they come from.

The metadata service is asked with three variables.  Where one of them is
missing the settings name the first one, in a fixed order
(`Credentials.ofEnvironment_eq_error_iff`); otherwise they hold the values as
they are (`Credentials.ofEnvironment_eq_ok_iff`).  The token of a channel is
there exactly if its variable is set and not empty
(`UploadSettings.token?_ofEnvironment`).
-/
import PackageRelease.Proofs.Outcome
import PackageRelease.Settings

namespace PackageRelease

variable {environment : Environment} {dist : String} {timeout : Duration}

/-! ### Environments -/

namespace Environment

theorem nonEmpty?_of_eq_some {v : Variable} {value : String}
    (set : environment v.name = some value) (nonempty : value ≠ "") :
    environment.nonEmpty? v = some value := by
  simp [nonEmpty?, set, nonempty]

/-- The environments differ in one variable at most. -/
def AgreeBut (v : Variable) (environment environment' : Environment) : Prop :=
  ∀ name, name ≠ v.name → environment name = environment' name

variable {v w : Variable} {environment' : Environment}

theorem AgreeBut.apply_eq (agree : environment.AgreeBut v environment') (apart : w ≠ v) :
    environment w.name = environment' w.name := by
  apply agree
  intro same
  exact apart (Variable.name_injective same)

theorem AgreeBut.nonEmpty?_eq (agree : environment.AgreeBut v environment') (apart : w ≠ v) :
    environment.nonEmpty? w = environment'.nonEmpty? w := by
  rw [nonEmpty?, nonEmpty?, agree.apply_eq apart]

/-- Environments that are given with other values of one variable. -/
theorem agreeBut_ofList {value value' : String} (before after : List (String × String)) :
    AgreeBut v (ofList (before ++ (v.name, value) :: after))
      (ofList (before ++ (v.name, value') :: after)) := by
  intro name apart
  have passed : (name == v.name) = false := beq_eq_false_iff_ne.2 apart
  show List.lookup name (_ ++ _) = List.lookup name (_ ++ _)
  rw [List.lookup_append, List.lookup_append, List.lookup_cons, List.lookup_cons, passed]

end Environment

/-! ### Credentials for the metadata service -/

namespace Credentials

/-- The variables that the metadata service is asked with, in the order in which they are
looked for. -/
def needed : List Variable := [.metadataUrl, .metadataUsername, .metadataPassword]

/-- The first variable that is missing for credentials. -/
def missing? (environment : Environment) : Option Variable :=
  needed.find? fun v => (environment.nonEmpty? v).isNone

theorem ofEnvironment_eq_error_iff {v : Variable} :
    ofEnvironment environment = .error v ↔ missing? environment = some v := by
  rcases url : environment.nonEmpty? .metadataUrl with - | host
  · simp [ofEnvironment, missing?, needed, url, bind, Except.bind]
  rcases user : environment.nonEmpty? .metadataUsername with - | username
  · simp [ofEnvironment, missing?, needed, url, user, bind, Except.bind]
  rcases pass : environment.nonEmpty? .metadataPassword with - | password <;>
    simp [ofEnvironment, missing?, needed, url, user, pass, bind, Except.bind, pure, Except.pure]

theorem ofEnvironment_eq_ok_iff {credentials : Credentials} :
    ofEnvironment environment = .ok credentials ↔
      environment.nonEmpty? .metadataUrl = some credentials.host ∧
      environment.nonEmpty? .metadataUsername = some credentials.username ∧
      environment.nonEmpty? .metadataPassword = some credentials.password.exposed := by
  obtain ⟨username, ⟨password⟩, host⟩ := credentials
  rcases url : environment.nonEmpty? .metadataUrl with - | host'
  · simp [ofEnvironment, url, bind, Except.bind]
  rcases user : environment.nonEmpty? .metadataUsername with - | username'
  · simp [ofEnvironment, url, user, bind, Except.bind]
  rcases pass : environment.nonEmpty? .metadataPassword with - | password'
  · simp [ofEnvironment, url, user, pass, bind, Except.bind]
  · simp only [ofEnvironment, url, user, pass, bind, Except.bind, pure, Except.pure,
      Except.ok.injEq, Credentials.mk.injEq, Secret.mk.injEq, Option.some.injEq]
    constructor
    · rintro ⟨rfl, rfl, rfl⟩
      exact ⟨rfl, rfl, rfl⟩
    · rintro ⟨rfl, rfl, rfl⟩
      exact ⟨rfl, rfl, rfl⟩

end Credentials

namespace Settings

theorem needCredentials_eq_ok_iff {settings : Settings} {credentials : Credentials} :
    settings.needCredentials = .ok credentials ↔ settings.credentials = .ok credentials :=
  mapError_eq_ok_iff

theorem phase_of_needCredentials_eq_error {settings : Settings} {failure : Failure}
    (h : settings.needCredentials = .error failure) : failure.phase = .config := by
  obtain ⟨v, -, rfl⟩ := mapError_eq_error_iff.1 h
  rfl

/-- The credentials are refused for the first variable that is missing, and by its name. -/
theorem needCredentials_read_eq_error_iff {failure : Failure} :
    (read environment dist timeout).needCredentials = .error failure ↔
      ∃ v, Credentials.missing? environment = some v ∧ failure = .missingConfig v.name := by
  rw [needCredentials, mapError_eq_error_iff]
  constructor
  · rintro ⟨v, refused, rfl⟩
    exact ⟨v, Credentials.ofEnvironment_eq_error_iff.1 refused, rfl⟩
  · rintro ⟨v, missing, rfl⟩
    exact ⟨v, Credentials.ofEnvironment_eq_error_iff.2 missing, rfl⟩

end Settings

/-! ### Tokens -/

theorem Channel.tokenVariable_injective {channel channel' : Channel}
    (same : channel.tokenVariable = channel'.tokenVariable) : channel = channel' := by
  cases channel <;> cases channel' <;> first | rfl | cases same

theorem Channel.tokenVariable_not_mem_needed (channel : Channel) :
    channel.tokenVariable ∉ Credentials.needed := by
  cases channel <;> decide

theorem UploadSettings.ne_empty_of_token?_eq_some {settings : UploadSettings} {channel : Channel}
    {token : Secret} (found : settings.token? channel = some token) : token.exposed ≠ "" := by
  have := (Option.filter_eq_some_iff.1 found).2
  simpa using this

theorem UploadSettings.token?_ofEnvironment (environment : Environment) (channel : Channel) :
    (ofEnvironment environment).token? channel
      = (environment.nonEmpty? channel.tokenVariable).map Secret.mk := by
  cases channel <;>
    simp [token?, ofEnvironment, Environment.nonEmpty?, Channel.tokenVariable, Option.filter_map,
      Function.comp_def]

/-! ### Environments that agree in some variables -/

section Agreement

variable {environment' : Environment}

theorem Credentials.ofEnvironment_congr
    (same : ∀ v ∈ needed, environment.nonEmpty? v = environment'.nonEmpty? v) :
    ofEnvironment environment = ofEnvironment environment' := by
  simp only [ofEnvironment, same .metadataUrl (by decide), same .metadataUsername (by decide),
    same .metadataPassword (by decide)]

/-- Where the password is there in both environments or in none, and its value is all they differ
in, the same variable is missing in both, or they give credentials that differ in the password at
most. -/
theorem Credentials.ofEnvironment_congr_but_password
    (url : environment.nonEmpty? .metadataUrl = environment'.nonEmpty? .metadataUrl)
    (user : environment.nonEmpty? .metadataUsername = environment'.nonEmpty? .metadataUsername)
    (pass : (environment.nonEmpty? .metadataPassword).isSome ↔
      (environment'.nonEmpty? .metadataPassword).isSome) :
    (∃ v, ofEnvironment environment = .error v ∧ ofEnvironment environment' = .error v) ∨
      ∃ username password password' host,
        ofEnvironment environment = .ok ⟨username, password, host⟩ ∧
        ofEnvironment environment' = .ok ⟨username, password', host⟩ := by
  rcases found : ofEnvironment environment with v | ⟨username, password, host⟩
  · have same : missing? environment = missing? environment' := by
      simp only [missing?, needed, List.find?_cons, List.find?_nil, ← Option.not_isSome, url, user,
        Bool.eq_iff_iff.2 pass]
    have missing := ofEnvironment_eq_error_iff.1 found
    rw [same] at missing
    exact .inl ⟨v, rfl, ofEnvironment_eq_error_iff.2 missing⟩
  · obtain ⟨host_set, username_set, password_set⟩ := ofEnvironment_eq_ok_iff.1 found
    have present : (environment'.nonEmpty? .metadataPassword).isSome :=
      pass.1 (by simp [password_set])
    obtain ⟨password', password_set'⟩ := Option.isSome_iff_exists.1 present
    exact .inr ⟨username, password, ⟨password'⟩, host, rfl,
      ofEnvironment_eq_ok_iff.2 ⟨url ▸ host_set, user ▸ username_set, password_set'⟩⟩

theorem UploadSettings.channel_congr
    (project : environment.nonEmpty? .projectName = environment'.nonEmpty? .projectName)
    (primary : environment.nonEmpty? .primaryProject = environment'.nonEmpty? .primaryProject) :
    (ofEnvironment environment).channel = (ofEnvironment environment').channel := by
  simp only [channel, ofEnvironment, project, primary]

theorem UploadSettings.testRepository_congr
    (repository : environment.nonEmpty? .testRepository = environment'.nonEmpty? .testRepository) :
    (ofEnvironment environment).testRepository = (ofEnvironment environment').testRepository := by
  simp only [ofEnvironment, repository]

end Agreement

end PackageRelease
