/-
PackageRelease/Proofs/Secrecy/Arguments.lean

What a command line shows in which some secrets are masked.

    shown argument  =  its masked form,  if it is one of the secrets and not empty
                       the argument,     else

    command line    =  program shown₁ shown₂ ... shownₙ

An argument that merely holds a secret is not one, and so it is shown as it is.
What is shown of an argument asks which secrets there are, and not when and how
often they have been registered.  In the command line of an upload the token is
the one secret: its own place and each place where the token stands again are
masked, and all else is as it is (`command_masks_whole_arguments`).
-/
import PackageRelease.Proofs.Secrecy.Masking
import PackageRelease.Proofs.Secrecy.Token

namespace PackageRelease

namespace Masker

variable {secrets secrets' : List Secret} {program argument : String} {arguments : List String}

/-- What is shown of an argument where some secrets are masked. -/
def shownArgument (secrets : List Secret) (argument : String) : String :=
  if argument ≠ "" ∧ ⟨argument⟩ ∈ secrets then Secret.masked ⟨argument⟩ else argument

theorem maskArgument_ofList (secrets : List Secret) (argument : String) :
    (ofList secrets).maskArgument argument = shownArgument secrets argument := by
  have registered : (∃ secret ∈ (ofList secrets).secrets, secret.exposed = argument) ↔
      argument ≠ "" ∧ ⟨argument⟩ ∈ secrets := by
    rw [secrets_ofList]
    constructor
    · rintro ⟨secret, mem, rfl⟩
      obtain ⟨mem, nonempty⟩ := List.mem_filter.1 mem
      exact ⟨by simpa using nonempty, mem⟩
    · rintro ⟨nonempty, mem⟩
      exact ⟨⟨argument⟩, List.mem_filter.2 ⟨mem, by simpa using nonempty⟩, rfl⟩
  simp only [maskArgument_eq, registered, shownArgument]

theorem maskCommand_ofList (secrets : List Secret) (program : String) (arguments : List String) :
    (ofList secrets).maskCommand program arguments
      = String.intercalate " " (program :: arguments.map (shownArgument secrets)) := by
  rw [maskCommand, funext (maskArgument_ofList secrets)]

/-- What is shown of an argument asks for the secrets, and for nothing else about their list. -/
theorem shownArgument_congr (same : ∀ secret, secret ∈ secrets ↔ secret ∈ secrets') :
    shownArgument secrets argument = shownArgument secrets' argument := by
  simp only [shownArgument, same]

end Masker

namespace Upload

variable {settings : UploadSettings} {dist : String} {selection : Selection}

theorem shownArgument_token (token : Secret) (argument : String) :
    Masker.shownArgument [token] argument
      = if argument ≠ "" ∧ argument = token.exposed then token.masked else argument := by
  rw [Masker.shownArgument]
  by_cases same : argument = token.exposed
  · subst same
    simp
  · have other : (⟨argument⟩ : Secret) ≠ token := fun eq => same (congrArg Secret.exposed eq)
    rw [if_neg fun h => other (List.mem_singleton.1 h.2), if_neg fun h => same h.2]

theorem commandLine_eq_shown (settings : UploadSettings) (dist : String) (selection : Selection) :
    commandLine settings dist selection
      = String.intercalate " " (Tool.program ::
          (arguments settings dist selection).map (Masker.shownArgument [selection.token])) :=
  Masker.maskCommand_ofList [selection.token] Tool.program (arguments settings dist selection)

end Upload

open Masker

/-- **Of the arguments of a command those are masked that are a secret as a whole**, and all others
are shown as they are, whatever they hold.  So it makes no difference in which order the secrets
have been registered.  In the command line of an upload the argument behind `-p` is masked, whatever
the token, and no other argument is unless it is the token; and a token that is selected is not
empty. -/
theorem command_masks_whole_arguments :
    (∀ (secrets : List Secret) (program : String) (arguments : List String),
      (ofList secrets).maskCommand program arguments
        = String.intercalate " " (program :: arguments.map fun argument =>
            if argument ≠ "" ∧ ⟨argument⟩ ∈ secrets then Secret.masked ⟨argument⟩ else argument)) ∧
    (∀ secrets secrets' : List Secret, secrets.Perm secrets' → ∀ program arguments,
      (ofList secrets).maskCommand program arguments
        = (ofList secrets').maskCommand program arguments) ∧
    ∀ (settings : UploadSettings) (dist : String) (selection : Upload.Selection),
      let shown (argument : String) : String :=
        if argument ≠ "" ∧ argument = selection.token.exposed then selection.token.masked
        else argument
      (∃ before,
        Upload.arguments settings dist selection
          = before ++ ["-p", selection.token.exposed, dist ++ "/*"] ∧
        Upload.commandLine settings dist selection
          = String.intercalate " " ("twine" :: (before.map shown ++
              [shown "-p", shown selection.token.exposed, shown (dist ++ "/*")]))) ∧
      (selection.token.exposed ≠ "" → shown selection.token.exposed = selection.token.masked) ∧
      (Upload.select settings = .ok selection → selection.token.exposed ≠ "") := by
  refine ⟨maskCommand_ofList, fun secrets secrets' perm program arguments => ?_,
    fun settings dist selection => ?_⟩
  · have same : shownArgument secrets = shownArgument secrets' :=
      funext fun argument => shownArgument_congr fun secret => perm.mem_iff
    rw [maskCommand_ofList, maskCommand_ofList, same]
  · intro shown
    have same : shownArgument [selection.token] = shown :=
      funext (Upload.shownArgument_token selection.token)
    refine ⟨⟨Upload.leading settings selection.usesTestIndex, Upload.arguments_eq, ?_⟩,
      fun nonempty => if_pos ⟨nonempty, rfl⟩,
      fun selected => (Upload.of_select_eq_ok selected).1⟩
    rw [Upload.commandLine_eq_shown, Upload.arguments_eq, same, List.map_append]
    rfl

/-- Secrets of which one is empty, one comes twice and begins another one; and a token that is also
an option of the upload tool. -/
theorem command_masks_whole_arguments_option :
    let secrets : List Secret := [⟨"tok"⟩, ⟨""⟩, ⟨"tok-0123456789"⟩, ⟨"tok"⟩]
    let arguments := ["tok", "token", "tok-0123456789", "", "a tok"]
    let settings : UploadSettings := .ofEnvironment (.ofList [("PROJECT_NAME", "demo")])
    let selection : Upload.Selection := ⟨⟨"--verbose"⟩, true, .nightlyToken⟩
    (ofList secrets).maskCommand "run" arguments = "run **** token tok...789  a tok" ∧
      (ofList secrets.reverse).maskCommand "run" arguments = "run **** token tok...789  a tok" ∧
      Upload.commandLine settings "dist" selection
        = "twine upload --repository testpypi **** -u __token__ -p **** dist/*" := by
  intro secrets arguments settings selection
  obtain ⟨shown, reordered, uploads⟩ := command_masks_whole_arguments
  obtain ⟨⟨before, form, line⟩, -, -⟩ := uploads settings "dist" selection
  have before_eq :
      before = ["upload", "--repository", "testpypi", "--verbose", "-u", "__token__"] :=
    List.append_cancel_right (form.symm.trans (by decide +kernel))
  subst before_eq
  have masked : (ofList secrets).maskCommand "run" arguments = "run **** token tok...789  a tok" :=
    (shown secrets "run" arguments).trans (by decide +kernel)
  refine ⟨masked, ?_, line.trans (by decide +kernel)⟩
  rw [reordered secrets.reverse secrets (List.reverse_perm secrets), masked]

end PackageRelease
