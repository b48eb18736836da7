/-
PackageRelease/Main.lean

The program.

    ls -1F dist | release-publisher inspect

It reads its command line, its variables and, where the artifact matters, the
listing of the artifact's directory, which comes in on standard input with an
entry on each line.  It opens no connection and starts no other program by
itself: to it the metadata service is out of reach, and the upload tool is not
installed.
-/
import PackageRelease.CommandLine.Program

namespace PackageRelease

namespace CommandLine

/-- The explanation of the command line. -/
def explanation : String :=
  "Publish a release artifact to the metadata service and the package index\n\n" ++
    "Usage: release-publisher [OPTIONS] [COMMAND]\n\n" ++
    "Commands:\n" ++
    "  release   Publish metadata, then upload the artifact (default)\n" ++
    "  metadata  Publish version metadata only\n" ++
    "  upload    Upload the artifact only\n" ++
    "  inspect   Print the coordinates parsed from the artifact, without publishing\n\n" ++
    "Options:\n" ++
    "      --dist-dir <DIST_DIR>          Directory holding the built artifact\n" ++
    "      --timeout-secs <TIMEOUT_SECS>  Timeout for the metadata request, in seconds\n" ++
    "  -v, --verbose                      Increase log verbosity\n" ++
    "  -h, --help                         Print help\n" ++
    "  -V, --version                      Print version\n"

/-- A transport that reaches nothing. -/
def unreachable : Service.Transport :=
  .ofWording fun
    | .badAddress => "invalid address"
    | .notConnected => "no connection"
    | .lateConnection | .lateAnswer => "operation timed out"
    | .broken => "connection closed"
    | .tooManyRedirects => "too many redirects"

/-- The lines of a stream up to its end. -/
def readLines (stream : IO.FS.Stream) : IO (List String) := do
  let mut lines := #[]
  repeat
    let line ← stream.getLine
    if line.isEmpty then break
    lines := lines.push (String.ofList (line.toList.filter (· ≠ '\n')))
  return lines.toList

/-- The variables of the process that have a say in a release. -/
def readEnvironment : IO Environment := do
  let values ← Variable.all.mapM fun v => do
    return (← IO.getEnv v.name).map (v.name, ·)
  return .ofList (values.filterMap id)

/-- What is listed on standard input, if the words ask for something that looks at it. -/
def readListing (words : List String) : IO Files.Listing := do
  match parse words with
  | .ok invocation =>
    if invocation.command.looksAtArtifact then
      return .ok ((← readLines (← IO.getStdin)).map .ofLine)
    else return .ok []
  | .error _ => return .ok []

end CommandLine

end PackageRelease

open PackageRelease CommandLine in
/-- Does what the command line asks for, and returns the exit code. -/
def main (words : List String) : IO UInt32 := do
  let listing ← readListing words
  let site : Site :=
    { environment := ← readEnvironment
      listing := fun _ => listing
      hasWorkingDirectory := true
      conversation := .refused
      transport := unreachable
      installed := none }
  let done := effect site words
  match done.output with
  | .text text => IO.print text
  | .explanation => IO.print explanation
  IO.eprint done.message
  return done.exitCode.toUInt32
