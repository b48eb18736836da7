/-
PackageRelease/Proofs/Upload/Destination.lean

Where an upload goes, and with which token, as the environment has it.

The names of the project and of the primary project decide, and what is unset
or empty has a default:

    project          PROJECT_NAME, or else the primary project
    primary project  RELEASE_PRIMARY_PROJECT, or else taichi

    project = primary project    PROD_PWD     the default index
    project ≠ primary project    NIGHT_PWD    RELEASE_TEST_REPOSITORY, or else testpypi

Without its token the upload ends before the tool is called.  With it the tool
is called once, the token being one of its arguments as it is, and what comes
of the call decides (`upload_goes_to_destination`).
-/
import PackageRelease.Proofs.Upload

namespace PackageRelease

namespace Environment

variable {environment : Environment} {v : Variable} {fallback : String}

/-- The value of a variable, or another one if it is unset or empty. -/
def valueOr (environment : Environment) (name fallback : String) : String :=
  match environment name with
  | none => fallback
  | some value => if value = "" then fallback else value

/-- The variable is unset or empty. -/
def Lacks (environment : Environment) (name : String) : Prop :=
  environment name = none ∨ environment name = some ""

theorem getD_nonEmpty? :
    (environment.nonEmpty? v).getD fallback = environment.valueOr v.name fallback := by
  unfold nonEmpty? valueOr
  rcases environment v.name with - | value
  · rfl
  · by_cases empty : value = "" <;> simp [Option.filter, empty]

theorem nonEmpty?_of_lacks (lacks : environment.Lacks v.name) : environment.nonEmpty? v = none := by
  rcases lacks with unset | empty
  · rw [nonEmpty?, unset]
    rfl
  · rw [nonEmpty?, empty]
    rfl

end Environment

namespace Upload

variable {environment : Environment} {dist : String} {tool : Tool.Outcome} {selection : Selection}

/-! ### Destinations -/

/-- Where an upload goes. -/
structure Destination where
  /-- The name of the variable that holds the token. -/
  tokenName : String
  /-- What names the index to the upload tool. -/
  index : List String
deriving DecidableEq, Repr

/-- The destination that an environment decides on. -/
def Destination.ofEnvironment (environment : Environment) : Destination :=
  let primary := environment.valueOr "RELEASE_PRIMARY_PROJECT" "taichi"
  let project := environment.valueOr "PROJECT_NAME" primary
  if project = primary then ⟨"PROD_PWD", []⟩
  else ⟨"NIGHT_PWD", ["--repository", environment.valueOr "RELEASE_TEST_REPOSITORY" "testpypi"]⟩

theorem channel_ofEnvironment (environment : Environment) :
    (UploadSettings.ofEnvironment environment).channel
      = if environment.valueOr "PROJECT_NAME"
            (environment.valueOr "RELEASE_PRIMARY_PROJECT" "taichi")
          = environment.valueOr "RELEASE_PRIMARY_PROJECT" "taichi" then .production else .test := by
  simp only [UploadSettings.channel, UploadSettings.ofEnvironment, Environment.getD_nonEmpty?]
  rfl

theorem tokenName_ofEnvironment (environment : Environment) :
    (Destination.ofEnvironment environment).tokenName
      = (UploadSettings.ofEnvironment environment).channel.tokenVariable.name := by
  rw [channel_ofEnvironment, Destination.ofEnvironment]
  split <;> rfl

theorem index_ofEnvironment (environment : Environment) :
    (Destination.ofEnvironment environment).index
      = if (UploadSettings.ofEnvironment environment).channel.usesTestIndex then
          ["--repository", (UploadSettings.ofEnvironment environment).testRepository]
        else [] := by
  have repository : (UploadSettings.ofEnvironment environment).testRepository
      = environment.valueOr "RELEASE_TEST_REPOSITORY" "testpypi" := Environment.getD_nonEmpty?
  rw [channel_ofEnvironment, repository, Destination.ofEnvironment]
  split <;> rfl

/-! ### Selection and call -/

/-- Without its token the upload ends before the tool is called. -/
theorem perform_of_lacks
    (lacks : environment.Lacks (Destination.ofEnvironment environment).tokenName) :
    perform (.ofEnvironment environment) dist tool
      = ⟨.error (.missingCredential (Destination.ofEnvironment environment).tokenName), []⟩ := by
  rw [tokenName_ofEnvironment] at lacks ⊢
  have missing : (UploadSettings.ofEnvironment environment).token?
      (UploadSettings.ofEnvironment environment).channel = none := by
    rw [UploadSettings.token?_ofEnvironment, Environment.nonEmpty?_of_lacks lacks]
    rfl
  rw [perform, select_eq_error_iff.2 ⟨missing, rfl⟩]
  rfl

/-- With its token the upload calls the tool, once, and what comes of the call decides. -/
theorem perform_of_token {token : String}
    (given : environment (Destination.ofEnvironment environment).tokenName = some token)
    (nonempty : token ≠ "") :
    ∃ selection event, perform (.ofEnvironment environment) dist tool
      = ⟨judge selection tool, [.note event, .call ⟨"twine",
          ["upload"] ++ (Destination.ofEnvironment environment).index ++
            ["--verbose", "-u", "__token__", "-p", token, dist ++ "/*"]⟩]⟩ := by
  rw [tokenName_ofEnvironment] at given
  rw [index_ofEnvironment]
  have found : (UploadSettings.ofEnvironment environment).token?
      (UploadSettings.ofEnvironment environment).channel = some ⟨token⟩ := by
    rw [UploadSettings.token?_ofEnvironment, Environment.nonEmpty?_of_eq_some given nonempty]
    rfl
  exact ⟨_, _, perform_of_selection (select_eq_ok_iff.2 ⟨_, found, rfl⟩)⟩

/-! ### What comes of the call -/

theorem judge_eq_uploadFailed_iff {code : Int} :
    judge selection tool = .error (.uploadFailed code) ↔ code ≠ 0 ∧ tool = .ok ⟨some code⟩ := by
  unfold judge
  split
  · simp [eq_comm]
  · next code' nonzero =>
    simp only [Except.error.injEq, Failure.uploadFailed.injEq, Except.ok.injEq,
      Tool.Status.mk.injEq, Option.some.injEq]
    constructor
    · rintro rfl
      exact ⟨fun zero => nonzero zero, rfl⟩
    · exact And.right
  all_goals simp

theorem judge_eq_uploadTerminated_iff :
    judge selection tool = .error .uploadTerminated ↔ tool = .ok ⟨none⟩ := by
  unfold judge
  split <;> simp

theorem judge_eq_uploadSpawn_iff :
    (∃ message, judge selection tool = .error (.uploadSpawn message)) ↔
      ∃ fault, tool = .error fault := by
  unfold judge
  split <;> simp

/-- **An upload goes where the environment has it.**  Without the token of its destination it fails
for lack of it and calls nothing.  With the token it calls the upload tool once, and hands over the
token as it is; it ends well exactly if the tool exits with code 0, and its failures tell another
code, an end without a code, and a call that did not come about. -/
theorem upload_goes_to_destination (environment : Environment) (dist : String)
    (tool : Tool.Outcome) :
    let goal := Destination.ofEnvironment environment
    let upload := perform (.ofEnvironment environment) dist tool
    (environment.Lacks goal.tokenName →
      upload.outcome = .error (.missingCredential goal.tokenName) ∧ upload.course.calls = []) ∧
    ∀ token, environment goal.tokenName = some token → token ≠ "" →
      upload.course.calls = [⟨"twine", ["upload"] ++ goal.index ++
        ["--verbose", "-u", "__token__", "-p", token, dist ++ "/*"]⟩] ∧
      (upload.outcome = .ok () ↔ tool = .ok ⟨some 0⟩) ∧
      (∀ code, upload.outcome = .error (.uploadFailed code) ↔
        code ≠ 0 ∧ tool = .ok ⟨some code⟩) ∧
      (upload.outcome = .error .uploadTerminated ↔ tool = .ok ⟨none⟩) ∧
      ((∃ message, upload.outcome = .error (.uploadSpawn message)) ↔
        ∃ fault, tool = .error fault) := by
  intro goal upload
  refine ⟨fun lacks => ?_, fun token given nonempty => ?_⟩
  · have ended : upload = _ := perform_of_lacks lacks
    rw [ended]
    exact ⟨rfl, rfl⟩
  · obtain ⟨selection, event, called⟩ := perform_of_token given nonempty
    have ended : upload = _ := called
    rw [ended]
    exact ⟨rfl, judge_eq_ok_iff, fun code => judge_eq_uploadFailed_iff,
      judge_eq_uploadTerminated_iff, judge_eq_uploadSpawn_iff⟩

end Upload

end PackageRelease
