/-
PackageRelease/Upload.lean

Uploading the artifact with the upload tool.

The channel of the project selects the token and the index:

    production   PROD_PWD    the default index
    test         NIGHT_PWD   an index that is named to the tool

The token goes to the tool as it is; in the log and in failures it is masked.
-/
import PackageRelease.Run.Attempt

namespace PackageRelease

namespace Upload

/-! ### Selection -/

/-- The user name that stands for the use of a token. -/
def tokenUser : String := "__token__"

/-- The token and the index of an upload. -/
structure Selection where
  token : Secret
  usesTestIndex : Bool
  tokenVariable : Variable
deriving DecidableEq

/-- The token and the index for the channel of the settings. -/
def select (settings : UploadSettings) : Except Failure Selection :=
  let channel := settings.channel
  match settings.token? channel with
  | some token => .ok ⟨token, channel.usesTestIndex, channel.tokenVariable⟩
  | none => .error (.missingCredential channel.tokenVariable.name)

/-! ### Command -/

/-- The arguments of the upload tool, the token among them. -/
def arguments (settings : UploadSettings) (dist : String) (selection : Selection) : List String :=
  ["upload"] ++
    (if selection.usesTestIndex then ["--repository", settings.testRepository] else []) ++
    ["--verbose", "-u", tokenUser, "-p", selection.token.exposed, dist ++ "/*"]

/-- The call of the upload tool. -/
def call (settings : UploadSettings) (dist : String) (selection : Selection) : Tool.Call :=
  ⟨Tool.program, arguments settings dist selection⟩

/-- The masker for the token. -/
def masker (selection : Selection) : Masker := Masker.register {} selection.token

/-- The command line of the upload tool with the token masked. -/
def commandLine (settings : UploadSettings) (dist : String) (selection : Selection) : String :=
  (masker selection).maskCommand Tool.program (arguments settings dist selection)

/-! ### Upload -/

/-- What comes of the upload when that comes of the call. -/
def judge (selection : Selection) : Tool.Outcome → Except Failure Unit
  | .ok ⟨some 0⟩ => .ok ()
  | .ok ⟨some code⟩ => .error (.uploadFailed code)
  | .ok ⟨none⟩ => .error .uploadTerminated
  | .error (.failed message) => .error (.uploadSpawn ((masker selection).mask message))
  | .error fault => .error (.uploadSpawn fault.message)

/-- The upload from a directory, if that comes of calling the tool. -/
def perform (settings : UploadSettings) (dist : String) (tool : Tool.Outcome) : Attempt Unit := do
  let selection ← Attempt.ofExcept (select settings)
  Attempt.note <| .uploading settings.channel.name selection.tokenVariable.name
    (commandLine settings dist selection)
  Attempt.happen (.call (call settings dist selection))
  Attempt.ofExcept (judge selection tool)

end Upload

end PackageRelease
