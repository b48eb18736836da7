/-
PackageRelease/Coordinates/Filename.lean

The coordinates in the name of an artifact.

A name consists of parts between hyphens and ends in a point and an extension
of three characters:

    <name>-<version>-<python>-<abi>-<platform>.<ext>

The name and the abi tag may be empty, and further parts may stand between the
platform tag and the extension.  The name is taken apart from left to right:
four parts, each up to the next hyphen, then the platform tag up to the next
hyphen or to the extension.
-/
import PackageRelease.Coordinates
import PackageRelease.Failure

namespace PackageRelease

namespace Filename

/-- The part up to the first hyphen, and what follows the hyphen. -/
def part? : List Char → Option (List Char × List Char)
  | [] => none
  | c :: rest =>
    if c = '-' then some ([], rest)
    else (part? rest).map fun (part, after) => (c :: part, after)

/-- The part up to the first hyphen, if it is not empty, and what follows the hyphen. -/
def tag? (text : List Char) : Option (List Char × List Char) :=
  match part? text with
  | some ([], _) => none
  | found => found

/-- The character may stand in an extension. -/
def inExtension (c : Char) : Bool := c ≠ '-' && c ≠ '.'

/-- The text in front of a point and an extension of three characters. -/
def stem? (text : List Char) : Option (List Char) :=
  match text.reverse with
  | c :: b :: a :: point :: stem =>
    if point = '.' ∧ inExtension a ∧ inExtension b ∧ inExtension c then some stem.reverse
    else none
  | _ => none

/-- Version, interpreter tag and platform tag in the name of an artifact. -/
def tags? (name : List Char) : Option (List Char × List Char × List Char) := do
  let (_, rest) ← part? name
  let (version, rest) ← tag? rest
  let (interpreter, rest) ← tag? rest
  let (_, rest) ← part? rest
  let stem ← stem? rest
  match stem.takeWhile (· ≠ '-') with
  | [] => none
  | platform => some (version, interpreter, platform)

end Filename

namespace Coordinates

/-- The coordinates in the name of an artifact. -/
def ofFilename (name : String) : Except Failure Coordinates :=
  match Filename.tags? name.toList with
  | some (version, interpreter, platform) =>
    .ok ⟨.ofList version, .ofList platform, .ofList interpreter⟩
  | none => .error (.malformedFilename name)

example : (ofFilename "pkg-2.0-cp311-abi3-win_amd64-extra.whl").toOption =
    some ⟨"2.0", "win_amd64", "cp311"⟩ := by decide +kernel

end Coordinates

end PackageRelease
