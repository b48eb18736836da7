/-
PackageRelease/CommandLine/Program.lean

The program as a function of its command line and of what it meets outside.

The exit code is 0 for success, 1 for a working directory that is gone, 2 for
a command line that asks for nothing that there is, and else the exit code of
the failure that ended the run.
-/
import PackageRelease.CommandLine.Arguments
import PackageRelease.Run

namespace PackageRelease

namespace CommandLine

/-- What the program meets outside. -/
structure Site where
  environment : Environment
  /-- What a directory holds. -/
  listing : (directory : String) → Files.Listing
  /-- The working directory is there. -/
  hasWorkingDirectory : Bool
  conversation : Service.Conversation
  transport : Service.Transport
  /-- What there is of the upload tool. -/
  installed : Tool.Installed

/-- What the program puts on its output. -/
inductive Output where
  | text (text : String)
  /-- An explanation of the command line. -/
  | explanation
deriving DecidableEq, Repr

/-- What is to be seen of the program. -/
structure Effect where
  exitCode : Nat
  output : Output
  /-- What goes to the operator besides the log. -/
  message : String
  course : Course

/-- What is asked for with `--version`. -/
def versionLine : String := "release-publisher 0.1.0\n"

/-- The settings for the options in an environment. -/
def settings (environment : Environment) (options : Options) : Settings :=
  .read environment (options.dist.getD Settings.defaultDist)
    ((options.timeout.map Duration.ofSeconds).getD Settings.defaultTimeout)

/-- What comes of the upload where the tool is what it is. -/
def toolOutcome (installed : Tool.Installed) (settings : Settings) : Tool.Outcome :=
  match Upload.select settings.upload with
  | .ok selection => Tool.call installed (Upload.call settings.upload settings.dist selection)
  | .error _ => Tool.call installed ⟨Tool.program, []⟩

/-- The effect of an attempt with the given output. -/
def effectOf {α : Type} (attempt : Attempt α) (output : String) : Effect where
  exitCode := PackageRelease.exitCode attempt.outcome
  output := .text output
  message :=
    match attempt.outcome with
    | .ok _ => ""
    | .error failure => failure.summary
  course := attempt.course

/-- The coordinates of the artifact are shown, and nothing is published. -/
def inspect (settings : Settings) (listing : Files.Listing) : Effect :=
  let attempt := Run.extractCoordinates settings.dist listing
  effectOf attempt <|
    match attempt.outcome with
    | .ok coordinates => coordinates.toJson.pretty ++ "\n"
    | .error _ => ""

/-- A run from the command line. -/
def release (site : Site) (settings : Settings) (parts : Parts) : Effect :=
  if site.hasWorkingDirectory then
    let attempt := PackageRelease.release settings parts
      { listing := site.listing settings.dist
        conversation := site.conversation
        transport := site.transport
        tool := toolOutcome site.installed settings
        acknowledgementWriting := .done
        confirmationWriting := .done }
    effectOf attempt attempt.course.output
  else ⟨1, .text "", "\n❌ Error\n" ++ Files.Fault.notFound.text ++ "\n", []⟩

/-- What the program does. -/
def effect (site : Site) (words : List String) : Effect :=
  match parse words with
  | .error .help => ⟨0, .explanation, "", []⟩
  | .error .version => ⟨0, .text versionLine, "", []⟩
  | .error .misuse => ⟨2, .text "", "", []⟩
  | .ok ⟨command, options⟩ =>
    let settings := settings site.environment options
    match command with
    | .release => release site settings .all
    | .metadata => release site settings .metadata
    | .upload => release site settings .upload
    | .inspect => inspect settings (site.listing settings.dist)

/-- The arguments that the upload tool is started with, if it is. -/
def Effect.toolArguments (effect : Effect) (installed : Tool.Installed) : Option (List String) :=
  effect.course.calls.head?.bind fun call =>
    match Tool.call installed call with
    | .ok _ => some call.arguments
    | .error _ => none

end CommandLine

end PackageRelease
