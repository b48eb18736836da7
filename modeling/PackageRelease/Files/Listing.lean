/-
PackageRelease/Files/Listing.lean

What is seen of a directory: its entries, or why it cannot be read.  Reading it
can also go wrong once some entries have been seen.

Names are bytes, because a name need not be a text.
-/
import PackageRelease.Text.Utf8

namespace PackageRelease

namespace Files

/-- The name of an entry in its directory. -/
abbrev Name := List UInt8

/-- What an entry is, links not being followed. -/
inductive Kind where
  | regular
  | directory
  | link
  | socket
deriving DecidableEq, Repr

/-- An entry of a directory. -/
structure Entry where
  kind : Kind
  name : Name
deriving DecidableEq, Repr

/-- Why a path does not lead to a file, or a file cannot be read. -/
inductive Fault where
  | notFound
  | notDirectory
  | tooManyLinks
  | nameTooLong
  | notPermitted
  /-- The path holds a NUL, which no path can. -/
  | containsNul
  /-- Any other fault, in the words of the system. -/
  | other (text : String)
deriving DecidableEq, Repr

/-- The words for a fault. -/
def Fault.text : Fault → String
  | notFound => "No such file or directory (os error 2)"
  | notDirectory => "Not a directory (os error 20)"
  | tooManyLinks => "Too many levels of symbolic links (os error 40)"
  | nameTooLong => "File name too long (os error 36)"
  | notPermitted => "Permission denied (os error 13)"
  | containsNul => "file name contained an unexpected NUL byte"
  | other text => text

/-- What is seen of a directory, the entries in the order in which they are listed. -/
inductive Listing where
  | ok (entries : List Entry)
  /-- The directory cannot be opened. -/
  | error (fault : Fault)
  /-- Behind some entries the next one cannot be read, or one that has the name `unseen` cannot be
  looked at. -/
  | brokenOff (entries : List Entry) (unseen : Option Name) (fault : Fault)
deriving DecidableEq, Repr

/-- The listing of a directory that has the entries or cannot be opened. -/
def Listing.ofExcept : Except Fault (List Entry) → Listing
  | .ok entries => ok entries
  | .error fault => error fault

/-- The entry that a line of a written listing stands for.  A slash, an at-sign or an equals sign
behind the name marks a directory, a link or a socket. -/
def Entry.ofLine (line : String) : Entry :=
  let chars := line.toList
  let marked (kind : Kind) : Entry := ⟨kind, Utf8.encode (String.ofList chars.dropLast)⟩
  match chars.getLast? with
  | some '/' => marked .directory
  | some '@' => marked .link
  | some '=' => marked .socket
  | _ => ⟨.regular, Utf8.encode line⟩

/-- The path of an entry in a directory. -/
def join (directory name : String) : String :=
  if directory.isEmpty ∨ directory.toList.getLast? = some '/' then directory ++ name
  else directory ++ "/" ++ name

end Files

end PackageRelease
