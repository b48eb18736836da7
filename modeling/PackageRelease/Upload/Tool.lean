/-
PackageRelease/Upload/Tool.lean

The tool that uploads, and what can come of calling it.

Only one program may be called at all.  Its arguments are handed over as they
are and never through a shell; only an argument that holds a NUL cannot be
handed over.
-/

namespace PackageRelease

namespace Tool

/-- The only program that may be called. -/
def program : String := "twine"

/-- A program and its arguments. -/
structure Call where
  program : String
  arguments : List String
deriving DecidableEq, Repr

/-! ### What comes of a call -/

/-- Why a program was not run. -/
inductive Fault where
  | notAllowed (program : String)
  | badDirectory (directory : String)
  | failed (message : String)
deriving DecidableEq, Repr

namespace Fault

/-- The name of a fault. -/
def code : Fault → String
  | notAllowed _ => "CommandNotAllowed"
  | badDirectory _ => "InvalidWorkingDirectory"
  | failed _ => "ExecutionFailed"

/-- The words for a fault. -/
def message : Fault → String
  | notAllowed program => "Command '" ++ program ++ "' is not in the allowed whitelist"
  | badDirectory directory => "Working directory does not exist: " ++ directory
  | failed message => "Command execution failed: " ++ message

end Fault

/-- How a program ended: with an exit code, or without one. -/
structure Status where
  code : Option Int
deriving DecidableEq, Repr

/-- The program ended well. -/
def Status.isSuccess (status : Status) : Bool := status.code = some 0

/-- What comes of a call. -/
abbrev Outcome := Except Fault Status

/-! ### Calling -/

/-- What there is of the program: none, or one that ends as told. -/
abbrev Installed := Option Status

/-- What comes of a call where the directory is good. -/
def call (installed : Installed) (c : Call) : Outcome :=
  if c.program ≠ program then .error (.notAllowed c.program)
  else if c.arguments.any fun argument => argument.toList.contains '\x00' then
    .error (.failed "nul byte found in provided data")
  else
    match installed with
    | none => .error (.failed "No such file or directory (os error 2)")
    | some status => .ok status

end Tool

end PackageRelease
