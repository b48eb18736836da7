/-
PackageRelease/Failure.lean

Everything that can end a release, with the words for it.

A failure belongs to one phase of a release and has a short code for logs, a
message, an exit code and some advice.  Exit codes tell the classes of
failures apart; 0, 1 and 2 are never among them, because they stand for
success, for an unexpected error and for a wrong command line
(`exitCode_ge_three`, `exitCode_le_twelve`).
-/
import PackageRelease.Duration
import PackageRelease.Text.Outline

namespace PackageRelease

/-! ### Phases -/

/-- The part of a release in which a failure arises. -/
inductive Phase where
  | config
  | coordinates
  | metadata
  | upload
deriving DecidableEq, Repr

/-- The name of a phase. -/
def Phase.name : Phase → String
  | config => "config"
  | coordinates => "coordinates"
  | metadata => "metadata"
  | upload => "upload"

/-! ### Failures -/

/-- What can end a release. -/
inductive Failure where
  /-- A variable that the metadata service needs is unset. -/
  | missingConfig (key : String)
  /-- The directory of the artifact cannot be listed. -/
  | artifactDirectory (path message : String)
  | noArtifact (path : String)
  | ambiguousArtifacts (path : String) (count : Nat) (names : List String)
  | malformedFilename (filename : String)
  /-- No connection to the metadata service. -/
  | connectivity (endpoint message : String)
  /-- The metadata service answered with a status that is no success. -/
  | server (status : Nat) (detail : String)
  | timeout (limit : Duration)
  /-- A request that cannot be made, or an answer that breaks off. -/
  | request (message : String)
  /-- The metadata service answered with a success that cannot be understood. -/
  | invalidResponse (message : String)
  /-- The token of the selected channel is unset. -/
  | missingCredential (key : String)
  | uploadFailed (code : Int)
  | uploadTerminated
  /-- The upload tool could not be started. -/
  | uploadSpawn (message : String)
deriving DecidableEq, Repr

namespace Failure

/-- The phase in which the failure arises. -/
def phase : Failure → Phase
  | missingConfig _ => .config
  | artifactDirectory .. | noArtifact _ | ambiguousArtifacts .. | malformedFilename _ =>
    .coordinates
  | connectivity .. | server .. | timeout _ | request _ | invalidResponse _ => .metadata
  | missingCredential _ | uploadFailed _ | uploadTerminated | uploadSpawn _ => .upload

/-- The short name of the failure for logs. -/
def code : Failure → String
  | missingConfig _ => "MISSING_CONFIG"
  | artifactDirectory .. => "ARTIFACT_DIRECTORY"
  | noArtifact _ => "NO_ARTIFACT"
  | ambiguousArtifacts .. => "AMBIGUOUS_ARTIFACTS"
  | malformedFilename _ => "MALFORMED_FILENAME"
  | connectivity .. => "CONNECTIVITY_ERROR"
  | server .. => "SERVER_ERROR"
  | timeout _ => "TIMEOUT_ERROR"
  | request _ => "REQUEST_ERROR"
  | invalidResponse _ => "INVALID_RESPONSE"
  | missingCredential _ => "MISSING_CREDENTIAL"
  | uploadFailed _ => "UPLOAD_FAILED"
  | uploadTerminated => "UPLOAD_TERMINATED"
  | uploadSpawn _ => "UPLOAD_SPAWN"

/-- The words that start the message of every failure of the metadata service. -/
def metadataFailed : String := "Updating latest version failed: "

/-- What happened, in words. -/
def message : Failure → String
  | missingConfig key => "Missing configuration env var " ++ key
  | artifactDirectory path message => "Cannot read artifact directory " ++ path ++ ": " ++ message
  | noArtifact path => "No artifact found in " ++ path
  | ambiguousArtifacts path count names =>
    "Expected exactly one artifact in " ++ path ++ ", found " ++ toString count ++ ": " ++
      String.intercalate ", " names
  | malformedFilename filename =>
    "Malformed artifact filename '" ++ filename ++
      "': expected <name>-<version>-<python>-<abi>-<platform>.<ext>"
  | connectivity endpoint message =>
    metadataFailed ++ "No internet, cannot reach " ++ endpoint ++ ": " ++ message
  | server status detail =>
    metadataFailed ++ "Server error, " ++ toString status ++ ": " ++ detail
  | timeout limit => metadataFailed ++ "Time out when connecting server after " ++ limit.text
  | request message => metadataFailed ++ message
  | invalidResponse message => metadataFailed ++ "unexpected response: " ++ message
  | missingCredential key => "Missing password env var " ++ key
  | uploadFailed code => "Twine upload returns error " ++ toString code
  | uploadTerminated => "Twine upload was terminated without an exit code"
  | uploadSpawn message => "Twine upload could not be started: " ++ message

/-- The exit code of a program that the failure ends. -/
def exitCode : Failure → Nat
  | missingConfig _ => 12
  | artifactDirectory .. | noArtifact _ | ambiguousArtifacts .. | malformedFilename _ => 3
  | connectivity .. => 4
  | server .. => 5
  | timeout _ => 6
  | request _ => 7
  | invalidResponse _ => 8
  | missingCredential _ => 9
  | uploadFailed _ | uploadTerminated => 10
  | uploadSpawn _ => 11

/-- What an operator can do about the failure. -/
def advice : Failure → List String
  | missingConfig _ =>
    ["Set METADATA_URL, METADATA_USERNAME and METADATA_PASSWORD in the job environment"]
  | artifactDirectory .. | noArtifact _ =>
    ["Check that the build step wrote its artifact to the dist directory",
      "Pass --dist-dir if the artifact lives elsewhere"]
  | ambiguousArtifacts .. =>
    ["Publish one artifact per run", "Clean the dist directory before building"]
  | malformedFilename _ => ["Check the artifact name follows the wheel naming convention"]
  | connectivity .. =>
    ["Check the network path to the metadata service", "Check METADATA_URL"]
  | server .. =>
    ["Check the metadata service logs", "Check METADATA_USERNAME and METADATA_PASSWORD"]
  | timeout _ =>
    ["Check the metadata service health", "Use --timeout-secs to allow a longer response time"]
  | request _ | invalidResponse _ => ["Check METADATA_URL points at the metadata service"]
  | missingCredential _ => ["Set PROD_PWD or NIGHT_PWD for the selected release channel"]
  | uploadFailed _ | uploadTerminated =>
    ["Check the twine output above", "The index rejects re-uploads of an existing version"]
  | uploadSpawn _ => ["Install twine in the release environment"]

theorem exitCode_ge_three (failure : Failure) : 3 ≤ failure.exitCode := by
  cases failure <;> simp [exitCode]

theorem exitCode_le_twelve (failure : Failure) : failure.exitCode ≤ 12 := by
  cases failure <;> simp [exitCode]

/-! ### For the operator -/

/-- Phase, code, message and advice, each on a line of its own. -/
def summary (failure : Failure) : String :=
  "\n❌ " ++ failure.phase.name ++ " failed [" ++ failure.code ++ "]\n" ++ failure.message ++ "\n" ++
    String.join (failure.advice.map fun line => "  - " ++ line ++ "\n")

/-- The failure with its parts. -/
def outline : Failure → Outline
  | missingConfig key => .record "MissingConfig" [("variable", .quoted key)]
  | artifactDirectory path message =>
    .record "ArtifactDirectory" [("path", .quoted path), ("message", .quoted message)]
  | noArtifact path => .record "NoArtifact" [("path", .quoted path)]
  | ambiguousArtifacts path count names =>
    .record "AmbiguousArtifacts"
      [("path", .quoted path), ("count", .word (toString count)),
        ("names", .items (names.map .quoted))]
  | malformedFilename filename => .record "MalformedFilename" [("filename", .quoted filename)]
  | connectivity endpoint message =>
    .record "Connectivity" [("endpoint", .quoted endpoint), ("message", .quoted message)]
  | server status detail =>
    .record "Server" [("status", .word (toString status)), ("detail", .quoted detail)]
  | timeout limit => .record "Timeout" [("timeout", .word limit.text)]
  | request message => .record "Request" [("message", .quoted message)]
  | invalidResponse message => .record "InvalidResponse" [("message", .quoted message)]
  | missingCredential key => .record "MissingCredential" [("variable", .quoted key)]
  | uploadFailed code => .record "UploadFailed" [("code", .word (toString code))]
  | uploadTerminated => .word "UploadTerminated"
  | uploadSpawn message => .record "UploadSpawn" [("message", .quoted message)]

end Failure

end PackageRelease
