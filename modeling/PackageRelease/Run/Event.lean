/-
PackageRelease/Run/Event.lean

The events that a release leaves in its log.

Times, and numbers that are drawn at random, are no part of an event here: a
release that fails also logs the number of its run, and one that ends logs how
many milliseconds have gone by since the first entry in the record.
-/
import PackageRelease.Coordinates
import PackageRelease.Run.Machine

namespace PackageRelease

/-- How much an event matters. -/
inductive Level where
  | debug
  | info
  | warning
  | error
deriving DecidableEq, Repr

/-- The name of a level. -/
def Level.name : Level → String
  | debug => "DEBUG"
  | info => "INFO"
  | warning => "WARN"
  | error => "ERROR"

/-- An entry of the log: a message and some named values. -/
structure Event where
  level : Level
  message : String
  fields : List (String × String)
deriving DecidableEq, Repr

namespace Event

/-- The message of the events that tell of a step of a machine. -/
def stepMessage : String := "release state transition"

/-- A machine takes a step. -/
def stepTaken (source target : State) : Event :=
  ⟨.debug, stepMessage, [("from", source.word), ("to", target.word)]⟩

/-- An artifact is there. -/
def artifactFound (path : String) : Event :=
  ⟨.info, "found release artifact", [("artifact", path)]⟩

/-- Coordinates are sent to the metadata service. -/
def publishing (endpoint : String) (coordinates : Coordinates) : Event :=
  ⟨.info, "publishing release metadata",
    [("endpoint", endpoint), ("coordinates", coordinates.text)]⟩

/-- The metadata service refuses the coordinates. -/
def rejected (status : Nat) : Event :=
  ⟨.warning, "metadata service rejected release", [("status", toString status)]⟩

/-- The metadata service has taken the coordinates. -/
def acknowledged (message : String) : Event :=
  ⟨.info, "metadata service acknowledged release", [("ack", message)]⟩

/-- The upload tool is called; `command` shows no secret. -/
def uploading (channel tokenVariable command : String) : Event :=
  ⟨.info, "uploading artifact",
    [("channel", channel), ("token_var", tokenVariable), ("command", command)]⟩

/-- A release ends with a failure; the number of the run is left out. -/
def releaseFailed (failure : Failure) : Event :=
  ⟨.error, "release failed", [("code", failure.code), ("phase", failure.phase.name)]⟩

/-- A release ends; the time since the first transition on record, which is that of the first run
of the machine, is left out. -/
def runFinished : Event := ⟨.debug, "release run finished", []⟩

/-- A line of output is lost. -/
def outputLost (reason : String) : Event :=
  ⟨.warning, "could not write release output", [("error", reason)]⟩

end Event

end PackageRelease
