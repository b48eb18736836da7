/-
PackageRelease/Run/Machine.lean

The states that a release goes through, and the record of how it went.

A `Machine` only ever adds to its record.  It takes any step from any state:
that a release goes through its states in order is a matter of the release and
not of the machine.  A step that fails leads to `failed`, with the code of the
failure as its detail, and its message is kept as the last error.
-/
import PackageRelease.Failure

namespace PackageRelease

/-! ### States -/

/-- How far a release is. -/
inductive State where
  | start
  | extractCoordinates
  | publishMetadata
  | metadataPublished
  | selectCredentials
  | invokeUpload
  | uploaded
  | success
  | failed
deriving DecidableEq, Repr

namespace State

/-- The name of a state in records. -/
def name : State → String
  | start => "START"
  | extractCoordinates => "EXTRACT_COORDINATES"
  | publishMetadata => "PUBLISH_METADATA"
  | metadataPublished => "METADATA_PUBLISHED"
  | selectCredentials => "SELECT_CREDENTIALS"
  | invokeUpload => "INVOKE_UPLOAD"
  | uploaded => "UPLOADED"
  | success => "SUCCESS"
  | failed => "FAILED"

/-- The name of a state in histories and logs. -/
def word : State → String
  | start => "Start"
  | extractCoordinates => "ExtractCoordinates"
  | publishMetadata => "PublishMetadata"
  | metadataPublished => "MetadataPublished"
  | selectCredentials => "SelectCredentials"
  | invokeUpload => "InvokeUpload"
  | uploaded => "Uploaded"
  | success => "Success"
  | failed => "Failed"

/-- All states. -/
def all : List State :=
  [start, extractCoordinates, publishMetadata, metadataPublished, selectCredentials, invokeUpload,
    uploaded, success, failed]

/-- The state with the given word. -/
def ofWord? (word : String) : Option State := all.find? fun state => state.word = word

theorem ofWord?_word (state : State) : ofWord? state.word = some state := by
  cases state <;> decide +kernel

theorem word_injective {state state' : State} (same : state.word = state'.word) :
    state = state' :=
  Option.some.inj ((ofWord?_word state).symm.trans (same ▸ ofWord?_word state'))

/-- A release ends in the state. -/
def isTerminal : State → Bool
  | success | failed => true
  | _ => false

end State

/-! ### Steps -/

/-- What is asked of a machine. -/
inductive Step where
  /-- To go to a state, perhaps with a note. -/
  | moved (target : State) (detail : Option String)
  /-- To end with a failure. -/
  | failed (failure : Failure)
deriving DecidableEq, Repr

namespace Step

/-- The state that the step leads to. -/
@[simp] def target : Step → State
  | moved target _ => target
  | failed _ => .failed

/-- The note on the step. -/
def detail : Step → Option String
  | moved _ detail => detail
  | failed failure => some failure.code

end Step

/-- A step as it was taken. -/
structure Transition where
  source : State
  target : State
  detail : Option String
deriving DecidableEq, Repr

/-- The transition as a line; `stamp` is the time at which it was taken. -/
def Transition.line (stamp : String) (t : Transition) : String :=
  stamp ++ ": " ++ t.source.word ++ " → " ++ t.target.word ++
    match t.detail with
    | none => ""
    | some detail => " (" ++ detail ++ ")"

/-! ### Machines -/

/-- The state of a release, and how it came to it. -/
structure Machine where
  state : State := .start
  transitions : List Transition := []
  lastError : Option String := none
deriving DecidableEq, Repr

namespace Machine

/-- The machine after a step. -/
def take (machine : Machine) (step : Step) : Machine where
  state := step.target
  transitions := machine.transitions ++ [⟨machine.state, step.target, step.detail⟩]
  lastError :=
    match step with
    | .moved _ _ => machine.lastError
    | .failed failure => some failure.message

/-- The machine after some steps. -/
def takeAll (machine : Machine) (steps : List Step) : Machine := steps.foldl take machine

/-- The transitions, one on each line; all of them bear the same stamp. -/
def history (machine : Machine) (stamp : String) : String :=
  String.intercalate "\n" (machine.transitions.map (Transition.line stamp))

@[simp] theorem takeAll_nil (machine : Machine) : machine.takeAll [] = machine := rfl

@[simp] theorem takeAll_cons (machine : Machine) (step : Step) (steps : List Step) :
    machine.takeAll (step :: steps) = (machine.take step).takeAll steps := rfl

theorem takeAll_append (machine : Machine) (first second : List Step) :
    machine.takeAll (first ++ second) = (machine.takeAll first).takeAll second :=
  List.foldl_append

end Machine

end PackageRelease
