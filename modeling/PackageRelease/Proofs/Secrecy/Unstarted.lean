/-
PackageRelease/Proofs/Secrecy/Unstarted.lean

Whether the token can be read where an upload could not be started.

Whatever the fault of the tool, the upload ends with one kind of failure, and
the message of that failure says what the fault was:

    the call failed            its words, with the token masked
    any other fault            its words as they are

Fixed words stand in front of that in the message, and around it in the
summary.  So the token can be read there if it can be read in what is said of
the fault, or if it is put together with fixed words; and otherwise it cannot
(`unstarted_upload_conceals_token`).  Words that are passed on as they are can
hold it, and so can masked ones in which it overlaps itself
(`unstarted_upload_shows_token`).
-/
import PackageRelease.Proofs.Secrecy.Masking
import PackageRelease.Proofs.Upload

namespace PackageRelease

/-! ### What is said -/

namespace Failure

/-- The words in front of what is said of the fault. -/
def unstartedLead : String := "Twine upload could not be started: "

/-- The words in front of the message. -/
def unstartedHeading : String := "\n❌ upload failed [UPLOAD_SPAWN]\n"

/-- The words behind the message. -/
def unstartedAdvice : String := "\n  - Install twine in the release environment\n"

variable (said : String)

theorem message_uploadSpawn : (uploadSpawn said).message = unstartedLead ++ said := rfl

theorem summary_uploadSpawn :
    (uploadSpawn said).summary = unstartedHeading ++ unstartedLead ++ said ++ unstartedAdvice := by
  have advice : String.join ((uploadSpawn said).advice.map fun line => "  - " ++ line ++ "\n")
      = "  - Install twine in the release environment\n" := by
    show String.join ["  - Install twine in the release environment\n"] = _
    decide +kernel
  have heading : "\n❌ " ++ (uploadSpawn said).phase.name ++ " failed ["
      ++ (uploadSpawn said).code ++ "]\n" = unstartedHeading := by
    show "\n❌ " ++ "upload" ++ " failed [" ++ "UPLOAD_SPAWN" ++ "]\n" = unstartedHeading
    decide +kernel
  have closing : "\n" ++ "  - Install twine in the release environment\n" = unstartedAdvice := by
    decide +kernel
  rw [summary, advice, heading, message_uploadSpawn, ← closing]
  simp only [String.append_assoc]

end Failure

/-! ### Words around a text -/

namespace Secret

variable {secret : Secret} {words text : String}

/-- Words in front of a text do not give the secret away: they do not hold it, and it does not
begin as they end. -/
def IsFreeAfter (secret : Secret) (words : String) : Prop :=
  ¬ secret.IsIn words ∧ ¬ Opens 0 words.toList secret.exposed.toList

/-- Words behind a text do not give the secret away: they do not hold it, and it does not end as
they begin. -/
def IsFreeBefore (secret : Secret) (words : String) : Prop :=
  ¬ secret.IsIn words ∧ ¬ Closes 0 words.toList secret.exposed.toList

instance : Decidable (secret.IsFreeAfter words) := by
  unfold IsFreeAfter
  infer_instance

instance : Decidable (secret.IsFreeBefore words) := by
  unfold IsFreeBefore
  infer_instance

theorem IsFreeAfter.not_isIn_append (free : secret.IsFreeAfter words)
    (absent : ¬ secret.IsIn text) : ¬ secret.IsIn (words ++ text) := by
  intro occurs
  rw [IsIn, String.toList_append] at occurs
  have behind := infix_rtake_append free.1 free.2 occurs
  rw [List.rtake_zero, List.nil_append] at behind
  exact absent behind

theorem IsFreeBefore.not_isIn_append (free : secret.IsFreeBefore words)
    (absent : ¬ secret.IsIn text) : ¬ secret.IsIn (text ++ words) := by
  intro occurs
  rw [IsIn, String.toList_append] at occurs
  have ahead := infix_append_take free.1 free.2 occurs
  rw [List.take_zero, List.append_nil] at ahead
  exact absent ahead

end Secret

namespace Upload

variable {selection : Selection}

/-- What an upload says of a fault of the tool. -/
def said (selection : Selection) : Tool.Fault → String
  | .failed message => (masker selection).mask message
  | fault => fault.message

theorem judge_error (selection : Selection) (fault : Tool.Fault) :
    judge selection (.error fault) = .error (.uploadSpawn (said selection fault)) := by
  cases fault <;> rfl

/-- Masked words do not hold the token, as long as no two occurrences of it in the words share some
of the three characters at their ends, and it is apart from the rest of its masked form. -/
theorem not_isIn_said_failed {message : String} (long : 10 ≤ selection.token.exposed.toList.length)
    (spared : selection.token.IsIn message →
      Apart 3 selection.token.masked.toList selection.token.exposed.toList ∧
        ¬ OverlapsIn 3 message.toList selection.token.exposed.toList) :
    ¬ selection.token.IsIn (said selection (.failed message)) := by
  by_cases given : selection.token.IsIn message
  · obtain ⟨apart, unshared⟩ := spared given
    exact fun left => unshared (Masker.overlapsIn_of_isIn_mask long apart left)
  · have kept : said selection (.failed message) = message :=
      Masker.mask_register_of_not_infix given
    rw [kept]
    exact given

/-! ### The upload -/

/-- **What an upload that could not be started shows of its token**, if the token has ten characters
or more.  Whatever the fault of the tool, the failure is that the upload could not be started.  The
words for a program that may not be called and for a bad directory are said as they are.  The words
of a call that failed are said masked: they do not hold the token unless two occurrences of it in
them overlap, or it is mixed up with its masked form.  If what is said does not hold the token, then
neither does the message of the failure if the token is free of the words in front, nor the summary
if it is free of the words around. -/
theorem unstarted_upload_conceals_token {environment : Environment} {token : String}
    (set : environment.nonEmpty?
      (UploadSettings.ofEnvironment environment).channel.tokenVariable = some token)
    (long : 10 ≤ token.toList.length) (dist : String) (fault : Tool.Fault) :
    let secret : Secret := ⟨token⟩
    ∃ said, (perform (.ofEnvironment environment) dist (.error fault)).outcome
        = .error (.uploadSpawn said) ∧
      (∀ program, fault = .notAllowed program →
        said = "Command '" ++ program ++ "' is not in the allowed whitelist") ∧
      (∀ directory, fault = .badDirectory directory →
        said = "Working directory does not exist: " ++ directory) ∧
      (∀ message, fault = .failed message →
        (secret.IsIn message → Apart 3 secret.masked.toList token.toList ∧
          ¬ OverlapsIn 3 message.toList token.toList) →
        ¬ secret.IsIn said) ∧
      (¬ secret.IsIn said →
        (secret.IsFreeAfter "Twine upload could not be started: " →
          ¬ secret.IsIn (Failure.uploadSpawn said).message) ∧
        (secret.IsFreeAfter
            "\n❌ upload failed [UPLOAD_SPAWN]\nTwine upload could not be started: " →
          secret.IsFreeBefore "\n  - Install twine in the release environment\n" →
          ¬ secret.IsIn (Failure.uploadSpawn said).summary)) := by
  intro secret
  let settings := UploadSettings.ofEnvironment environment
  let selection : Selection :=
    ⟨secret, settings.channel.usesTestIndex, settings.channel.tokenVariable⟩
  have found : settings.token? settings.channel = some selection.token := by
    rw [UploadSettings.token?_ofEnvironment, set]
    rfl
  have selected : select settings = .ok selection := select_eq_ok_iff.2 ⟨_, found, rfl⟩
  rw [perform_of_selection selected, judge_error]
  refine ⟨said selection fault, rfl, ?_, ?_, ?_, fun absent => ⟨fun lead => ?_,
    fun around advice => ?_⟩⟩
  · rintro program rfl
    rfl
  · rintro directory rfl
    rfl
  · rintro message rfl spared
    exact @not_isIn_said_failed selection message long spared
  · rw [Failure.message_uploadSpawn]
    exact lead.not_isIn_append absent
  · have heading : Failure.unstartedHeading ++ Failure.unstartedLead
        = "\n❌ upload failed [UPLOAD_SPAWN]\nTwine upload could not be started: " := by
      decide +kernel
    rw [Failure.summary_uploadSpawn, heading]
    exact advice.not_isIn_append (around.not_isIn_append absent)

/-- A token in the words of a call that failed; it begins with the letter that it ends with. -/
theorem unstarted_upload_conceals_token_nightly :
    let environment : Environment := .ofList
      [("PROJECT_NAME", "demo"), ("NIGHT_PWD", "pypi-nightly-step")]
    let token : Secret := ⟨"pypi-nightly-step"⟩
    let failure : Failure := .uploadSpawn "twine -p pyp...tep: not found"
    (perform (.ofEnvironment environment) "dist"
        (.error (.failed "twine -p pypi-nightly-step: not found"))).outcome = .error failure ∧
      ¬ token.IsIn failure.message ∧ ¬ token.IsIn failure.summary := by
  intro environment token failure
  have set : environment.nonEmpty?
      (UploadSettings.ofEnvironment environment).channel.tokenVariable
      = some "pypi-nightly-step" := by
    decide +kernel
  have outcome : (perform (.ofEnvironment environment) "dist"
      (.error (.failed "twine -p pypi-nightly-step: not found"))).outcome = .error failure := by
    decide +kernel
  have apart : Apart 3 token.masked.toList token.exposed.toList :=
    Secret.apart_toList_masked (by decide) (by decide)
  have once : ¬ OverlapsIn 3 "twine -p pypi-nightly-step: not found".toList
      token.exposed.toList := by
    decide +kernel
  obtain ⟨said, ended, -, -, masked, conceals⟩ := unstarted_upload_conceals_token set (by decide)
    "dist" (.failed "twine -p pypi-nightly-step: not found")
  obtain ⟨message, summary⟩ := conceals (masked _ rfl fun _ => ⟨apart, once⟩)
  have same := Failure.uploadSpawn.inj (Except.error.inj (outcome.symm.trans ended))
  rw [← same] at message summary
  exact ⟨outcome, message (by decide +kernel), summary (by decide +kernel) (by decide +kernel)⟩

/-- **An upload that could not be started can show its token.**  A token can be one of the fixed
words of the message or of the summary; it can be in the name of a program that may not be called;
and where the words of the fault are masked, it can overlap itself in them. -/
theorem unstarted_upload_shows_token :
    let ended (token : String) (fault : Tool.Fault) (said : String) : Prop :=
      10 ≤ token.toList.length ∧
        (perform (.ofEnvironment (.ofList [("PROD_PWD", token)])) "dist" (.error fault)).outcome
          = .error (.uploadSpawn said)
    (ended "Twine upload could" (.failed "not found") "not found" ∧
      Secret.IsIn ⟨"Twine upload could"⟩ (Failure.uploadSpawn "not found").message) ∧
    (ended "Install twine in" (.failed "not found") "not found" ∧
      Secret.IsIn ⟨"Install twine in"⟩ (Failure.uploadSpawn "not found").summary) ∧
    (ended "pypi-prod-token" (.notAllowed "pypi-prod-token")
        "Command 'pypi-prod-token' is not in the allowed whitelist" ∧
      Secret.IsIn ⟨"pypi-prod-token"⟩
        "Command 'pypi-prod-token' is not in the allowed whitelist") ∧
    (ended "abcdefgabc" (.failed "abcdefgabcdefgabc") "abc...abcdefgabc" ∧
      Secret.IsIn ⟨"abcdefgabc"⟩ "abc...abcdefgabc") := by
  decide +kernel

end Upload

end PackageRelease
