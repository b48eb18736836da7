/-
PackageRelease/Coordinates.lean

What identifies a release: its version, its platform and its interpreter.

The coordinates travel as a JSON object of three texts, in the order

    {"version":"1.7.0","platform":"manylinux_2_27_x86_64","python":"cp311"}

and are read back from an object or from a list of the three texts.
-/
import PackageRelease.Json.Record

namespace PackageRelease

/-- Version, platform tag and interpreter tag of a release. -/
structure Coordinates where
  version : String
  platform : String
  interpreter : String
deriving DecidableEq, Repr

namespace Coordinates

/-- The coordinates in words. -/
def text (c : Coordinates) : String :=
  "version=" ++ c.version ++ " python=" ++ c.interpreter ++ " platform=" ++ c.platform

/-- The coordinates as a JSON value. -/
def toJson (c : Coordinates) : Json :=
  .object [("version", .string c.version), ("platform", .string c.platform),
    ("python", .string c.interpreter)]

/-- How coordinates stand in a JSON text. -/
def shape : Json.Shape Coordinates where
  name := "ReleaseCoordinates"
  fields := ["version", "platform", "python"]
  make field := do
    return ⟨← field "version", ← field "platform", ← field "python"⟩

/-- The coordinates that a JSON text consists of, or the words for what is wrong with it. -/
def decode (text : String) : Except String Coordinates := shape.decode text

end Coordinates

end PackageRelease
