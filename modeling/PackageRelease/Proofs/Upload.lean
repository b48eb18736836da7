/-
PackageRelease/Proofs/Upload.lean

What comes of an upload.

The token is selected first, and that fails for one reason only: there is no
token for the channel (`select_eq_error_iff`).  Once it is selected the tool
is called, once, and what comes of the call decides: the upload ends well
exactly if the tool exits with code 0 (`judge_eq_ok_iff`), and its failures
are failures of a call (`isOfCall_of_judge_eq_error`).
-/
import PackageRelease.Proofs.Settings
import PackageRelease.Upload

namespace PackageRelease

/-- The failure comes of a call of the upload tool. -/
inductive Failure.IsOfCall : Failure → Prop
  | exited (code : Int) : IsOfCall (.uploadFailed code)
  | killed : IsOfCall .uploadTerminated
  | unstarted (message : String) : IsOfCall (.uploadSpawn message)

theorem Failure.IsOfCall.phase_eq {failure : Failure} (h : failure.IsOfCall) :
    failure.phase = .upload := by
  cases h <;> rfl

namespace Upload

variable {settings : UploadSettings} {dist : String} {selection : Selection} {tool : Tool.Outcome}

/-! ### Selection -/

theorem select_eq_ok_iff :
    select settings = .ok selection ↔
      ∃ token, settings.token? settings.channel = some token ∧
        selection = ⟨token, settings.channel.usesTestIndex, settings.channel.tokenVariable⟩ := by
  rcases found : settings.token? settings.channel with - | token
  · simp [select, found]
  · simp [select, found, eq_comm]

theorem select_eq_error_iff {failure : Failure} :
    select settings = .error failure ↔
      settings.token? settings.channel = none ∧
        failure = .missingCredential settings.channel.tokenVariable.name := by
  rcases found : settings.token? settings.channel with - | token
  · simp [select, found, eq_comm]
  · simp [select, found]

/-- A token is selected exactly if the variable of the channel is set and not empty. -/
theorem select_ofEnvironment_isOk_iff {environment : Environment} :
    (∃ selection, select (.ofEnvironment environment) = .ok selection) ↔
      (environment.nonEmpty?
        (UploadSettings.ofEnvironment environment).channel.tokenVariable).isSome := by
  simp only [select_eq_ok_iff, UploadSettings.token?_ofEnvironment]
  rcases environment.nonEmpty? _ with - | value <;> simp

/-! ### What comes of the call -/

theorem judge_eq_ok_iff : judge selection tool = .ok () ↔ tool = .ok ⟨some 0⟩ := by
  unfold judge
  split <;> simp_all

theorem isOfCall_of_judge_eq_error {failure : Failure}
    (h : judge selection tool = .error failure) : failure.IsOfCall := by
  unfold judge at h
  split at h <;> cases h
  · exact .exited _
  · exact .killed
  · exact .unstarted _
  · exact .unstarted _

/-! ### The upload -/

/-- Once the token is selected the tool is called, and nothing but the log comes before. -/
theorem perform_of_selection (selected : select settings = .ok selection) :
    perform settings dist tool
      = ⟨judge selection tool,
          [.note (.uploading settings.channel.name selection.tokenVariable.name
              (commandLine settings dist selection)),
            .call (call settings dist selection)]⟩ := by
  simp [perform, selected, Attempt.ofExcept, Attempt.note]

end Upload

end PackageRelease
