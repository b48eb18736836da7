/-
PackageRelease/Artifact.lean

The one artifact that a release publishes.

An entry of the directory counts if it is a regular file and its name does not
start with a point.  There must be exactly one that counts, whatever the order
in which they are listed; a name that counts but is no text ends the search.
-/
import PackageRelease.Coordinates.Filename
import PackageRelease.Files.Listing
import PackageRelease.Text.Utf8

namespace PackageRelease

/-- A file to be published. -/
structure Artifact where
  path : String
  name : String
deriving DecidableEq, Repr

namespace Artifact

/-- The entry is a regular file that is not hidden. -/
def counts (entry : Files.Entry) : Bool :=
  entry.kind == .regular && entry.name.head? != some 46

/-- The name of an entry as a text. -/
def nameOf (entry : Files.Entry) : Except Failure String :=
  match Utf8.decode? entry.name with
  | some name => .ok name
  | none => .error (.malformedFilename (Utf8.decodeLossy entry.name))

/-- The artifact among the names of the entries that count. -/
def choose (dist : String) (names : List String) : Except Failure Artifact :=
  match names with
  | [] => .error (.noArtifact dist)
  | [name] => .ok ⟨Files.join dist name, name⟩
  | names => .error (.ambiguousArtifacts dist names.length (names.mergeSort (· ≤ ·)))

/-- The words for a path that cannot be read. -/
def unreadable (path : String) (fault : Files.Fault) : String :=
  "IO error for operation on " ++ path ++ ": " ++ fault.text

/-- The words for a listing that breaks off. -/
def brokenOff (dist : String) (unseen : Option Files.Name) (fault : Files.Fault) : String :=
  match unseen with
  | some name => unreadable (Files.join dist (Utf8.decodeLossy name)) fault
  | none => fault.text

/-- The names of the entries that count. -/
def namesOf (entries : List Files.Entry) : Except Failure (List String) :=
  (entries.filter counts).mapM nameOf

/-- The artifact in a directory. -/
def locate (dist : String) : Files.Listing → Except Failure Artifact
  | .ok entries => do choose dist (← namesOf entries)
  | .error fault => .error (.artifactDirectory dist (unreadable dist fault))
  | .brokenOff entries unseen fault => do
    -- an entry in front of the fault can end the search before
    let _ ← namesOf entries
    .error (.artifactDirectory dist (brokenOff dist unseen fault))

/-- The coordinates of an artifact. -/
def coordinates (artifact : Artifact) : Except Failure Coordinates :=
  Coordinates.ofFilename artifact.name

end Artifact

end PackageRelease
