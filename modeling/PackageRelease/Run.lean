/-
PackageRelease/Run.lean

A release from beginning to end.

There are two parts, in this order: the metadata service is told the
coordinates of the artifact, and the artifact is uploaded.  A run does one of
them or both.  The first failure ends it; nothing is taken back.  As soon as a
part is done its confirmation goes to the output, and a confirmation that
cannot be written is no failure.

Whatever a run meets outside is given to it beforehand as its `Surroundings`,
and whatever it does is in the course of the attempt.
-/
import PackageRelease.Artifact
import PackageRelease.Service.Publish
import PackageRelease.Upload

namespace PackageRelease

/-! ### Parts -/

/-- What a run does. -/
inductive Parts where
  | all
  | metadata
  | upload
deriving DecidableEq, Repr

namespace Parts

/-- The run tells the metadata service. -/
def hasMetadata : Parts → Bool
  | all | metadata => true
  | upload => false

/-- The run uploads. -/
def hasUpload : Parts → Bool
  | all | upload => true
  | metadata => false

end Parts

/-! ### Surroundings -/

/-- What a run meets outside. -/
structure Surroundings where
  /-- What the directory of the artifact holds. -/
  listing : Files.Listing
  /-- What the metadata service does when it is connected to. -/
  conversation : Service.Conversation
  /-- The transport that carries requests to the service. -/
  transport : Service.Transport
  /-- What comes of calling the upload tool. -/
  tool : Tool.Outcome
  /-- What becomes of the acknowledgement in the output. -/
  acknowledgementWriting : Writing
  /-- What becomes of the confirmation of the upload in the output. -/
  confirmationWriting : Writing

/-! ### The two parts -/

/-- What a run has done. -/
structure Report where
  coordinates : Option Coordinates
  acknowledgement : Option Service.Acknowledgement
  uploaded : Bool
deriving DecidableEq, Repr

namespace Run

/-- The coordinates of the artifact in the directory. -/
def extractCoordinates (dist : String) (listing : Files.Listing) : Attempt Coordinates := do
  let artifact ← Attempt.ofExcept (Artifact.locate dist listing)
  Attempt.note (.artifactFound artifact.path)
  Attempt.ofExcept artifact.coordinates

/-- The coordinates go to the metadata service. -/
def publishMetadata (settings : Settings) (outside : Surroundings) :
    Attempt (Coordinates × Service.Acknowledgement) := do
  let credentials ← Attempt.ofExcept settings.needCredentials
  Attempt.moveTo .extractCoordinates
  let coordinates ← extractCoordinates settings.dist outside.listing
  Attempt.moveTo .publishMetadata (some coordinates.text)
  let ack ← Service.submit outside.transport outside.conversation credentials settings.timeout
    coordinates
  Attempt.moveTo .metadataPublished
  Attempt.note (.acknowledged ack.message)
  Attempt.happen (.line ack.message outside.acknowledgementWriting)
  return (coordinates, ack)

/-- The confirmation of the upload. -/
def confirmation : String := "✅ Artifact uploaded"

/-- The artifact is uploaded. -/
def uploadArtifact (settings : Settings) (outside : Surroundings) : Attempt Unit := do
  Attempt.moveTo .selectCredentials (some settings.upload.channel.name)
  let _ ← Attempt.ofExcept (Upload.select settings.upload)
  Attempt.moveTo .invokeUpload
  Upload.perform settings.upload settings.dist outside.tool
  Attempt.moveTo .uploaded
  Attempt.happen (.line confirmation outside.confirmationWriting)

/-! ### The run -/

/-- The parts of a run, one after the other. -/
def perform (settings : Settings) (parts : Parts) (outside : Surroundings) : Attempt Report := do
  let published ←
    if parts.hasMetadata then some <$> publishMetadata settings outside else pure none
  if parts.hasUpload then uploadArtifact settings outside
  return ⟨published.map (·.1), published.map (·.2), parts.hasUpload⟩

/-- What happens at the end of a run. -/
def closing : Except Failure Report → Course
  | .ok _ => [.step (.moved .success none), .note .runFinished]
  | .error failure =>
    [.note (.releaseFailed failure), .step (.failed failure), .note .runFinished]

end Run

/-- A run, its end included. -/
def release (settings : Settings) (parts : Parts) (outside : Surroundings) : Attempt Report :=
  let attempt := Run.perform settings parts outside
  ⟨attempt.outcome, attempt.course ++ Run.closing attempt.outcome⟩

/-- The exit code of a program that does a run. -/
def exitCode {α : Type} : Except Failure α → Nat
  | .ok _ => 0
  | .error failure => failure.exitCode

end PackageRelease
