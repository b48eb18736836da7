/-
PackageRelease/Run/Series.lean

Runs one after the other with the same settings and the same machine.

Each run meets surroundings of its own, and the machine goes on recording.
The surroundings can come from a script: what the service does the first time
a run connects to it, the second time, and so on, and likewise for the calls of
the upload tool and for the lines of the output.  Each run then goes on in the
script where the one before it has stopped.

A run connects to the service when it comes to publish the metadata, and it
does so once, whether the service takes the connection or not.  (Where the
endpoint is no address, or no client can be set up, that is so for every run of
the series, and what the service would do makes no difference.)
-/
import PackageRelease.Run

namespace PackageRelease

/-! ### Scripts -/

/-- What some runs meet outside, time by time. -/
structure Script where
  listing : Files.Listing
  transport : Service.Transport
  conversation : Nat → Service.Conversation
  tool : Nat → Tool.Outcome
  writing : Nat → Writing

/-- How much of a script is used up. -/
structure Progress where
  connections : Nat := 0
  calls : Nat := 0
  lines : Nat := 0
deriving DecidableEq, Repr

namespace Progress

/-- What is used up after a course. -/
def after (progress : Progress) (course : Course) : Progress where
  connections := progress.connections + course.targets.count .publishMetadata
  calls := progress.calls + course.calls.length
  lines := progress.lines + course.lines.length

end Progress

/-- What a run meets that starts when so much of the script is used up. -/
def Script.surroundings (script : Script) (progress : Progress) (parts : Parts) :
    Surroundings where
  listing := script.listing
  conversation := script.conversation progress.connections
  transport := script.transport
  tool := script.tool progress.calls
  acknowledgementWriting := script.writing progress.lines
  confirmationWriting := script.writing (progress.lines + if parts.hasMetadata then 1 else 0)

/-! ### Series -/

namespace Run

/-- A run of a series: how it ended, and the machine before it and after it. -/
structure Entry where
  attempt : Attempt Report
  before : Machine
  after : Machine

/-- The runs of a series that goes on with a machine, each with what it meets outside. -/
def sequenceFrom (settings : Settings) (machine : Machine) :
    List (Parts × Surroundings) → List Entry
  | [] => []
  | (parts, outside) :: rest =>
    let attempt := release settings parts outside
    let after := machine.takeAll attempt.course.steps
    ⟨attempt, machine, after⟩ :: sequenceFrom settings after rest

/-- The runs of a series, each with what it meets outside. -/
def sequence (settings : Settings) (runs : List (Parts × Surroundings)) : List Entry :=
  sequenceFrom settings {} runs

end Run

/-- What the runs of a series meet that starts when so much of the script is used up. -/
def Script.encounters (script : Script) (settings : Settings) (progress : Progress) :
    List Parts → List (Parts × Surroundings)
  | [] => []
  | parts :: rest =>
    let outside := script.surroundings progress parts
    let course := (release settings parts outside).course
    (parts, outside) :: encounters script settings (progress.after course) rest

namespace Run

/-- The runs of a series that follows a script. -/
def series (settings : Settings) (script : Script) (parts : List Parts) : List Entry :=
  sequence settings (script.encounters settings {} parts)

/-- The log of a run. -/
def Entry.log (entry : Entry) : List Event := entry.attempt.course.log entry.before.state

/-- The course of a whole series. -/
def courseOf (entries : List Entry) : Course := entries.flatMap (·.attempt.course)

/-- The machine after a whole series. -/
def machineOf (entries : List Entry) : Machine := (entries.getLast?.map (·.after)).getD {}

end Run

end PackageRelease
