/-
PackageRelease/Files/Tree.lean

Trees of files, and how paths lead through them.

A tree is a table from places to nodes; a place is the list of names that lead
to it from the root.  A path is followed name by name from the root or from a
current directory.  A link on the way is replaced by its target, at most forty
times; whether a link at the very end is replaced as well is up to the
question.  A slash at the end of a path stands for one more step that stays
where it is, and therefore asks for a directory.

`Tree.list` is the listing of a directory as a program sees it that looks at
the path first and follows it if it is a link: what is there, but is no
directory, lists as empty.
-/
import PackageRelease.Files.Listing
import PackageRelease.Text.Utf8

namespace PackageRelease

namespace Files

/-! ### Trees -/

/-- The names that lead to a file from the root. -/
abbrev Place := List Name

/-- What is at a place. -/
inductive Node where
  | file
  | directory
  | socket
  | link (target : List UInt8)
deriving DecidableEq, Repr

/-- What an entry for the node is. -/
def Node.kind : Node → Kind
  | file => .regular
  | directory => .directory
  | socket => .socket
  | link _ => .link

/-- The nodes of a tree in the order in which they were made; the root is always there. -/
structure Tree where
  nodes : List (Place × Node) := []

namespace Tree

/-- The node at a place. -/
def node? (tree : Tree) (place : Place) : Option Node :=
  if place = [] then some .directory else tree.nodes.lookup place

/-- The entries of the directory at a place. -/
def entries (tree : Tree) (place : Place) : List Entry :=
  tree.nodes.filterMap fun (at_, node) =>
    match at_.getLast? with
    | some name => if at_.dropLast = place then some ⟨node.kind, name⟩ else none
    | none => none

/-! ### Paths -/

/-- A slash. -/
def slash : UInt8 := 47

/-- A point. -/
def point : UInt8 := 46

/-- The names between the slashes, behind the part of a name already read. -/
def names (part : Name) : List UInt8 → List Name
  | [] => if part.isEmpty then [] else [part]
  | b :: rest =>
    if b = slash then (if part.isEmpty then names [] rest else part :: names [] rest)
    else names (part ++ [b]) rest

/-- The steps of a path; a slash at its end is a step that stays. -/
def steps (path : List UInt8) : List Name :=
  names [] path ++ (if path.getLast? = some slash then [[point]] else [])

/-- The path starts at the root. -/
def isAbsolute (path : List UInt8) : Bool := path.head? == some slash

/-- The greatest length of a name. -/
def nameLimit : Nat := 255

/-- The greatest length of a path. -/
def pathLimit : Nat := 4095

/-- The greatest number of links on the way. -/
def linkLimit : Nat := 40

/-- Where the steps lead from a directory; `links` more links may be on the way. -/
def walk (tree : Tree) (followLast : Bool) (links : Nat) (here : Place) (path : List Name) :
    Except Fault (Place × Node) :=
  match path with
  | [] => .ok (here, .directory)
  | name :: rest =>
    if name = [point] then walk tree followLast links here rest
    else if name = [point, point] then walk tree followLast links here.dropLast rest
    else if nameLimit < name.length then .error .nameTooLong
    else
      match tree.node? (here ++ [name]) with
      | none => .error .notFound
      | some .directory => walk tree followLast links (here ++ [name]) rest
      | some (.link target) =>
        if rest = [] ∧ !followLast then .ok (here ++ [name], .link target)
        else
          match links with
          | 0 => .error .tooManyLinks
          | links + 1 =>
            walk tree followLast links (if isAbsolute target then [] else here)
              (steps target ++ rest)
      | some node => if rest = [] then .ok (here ++ [name], node) else .error .notDirectory
termination_by (links, path.length)

/-- Where a path leads from the current directory. -/
def find (tree : Tree) (followLast : Bool) (current : Place) (path : String) :
    Except Fault (Place × Node) :=
  let bytes := Utf8.encode path
  if bytes.contains 0 then .error .containsNul
  else if bytes.isEmpty then .error .notFound
  else if pathLimit < bytes.length then .error .nameTooLong
  else tree.walk followLast linkLimit (if isAbsolute bytes then [] else current) (steps bytes)

/-! ### Questions -/

/-- The entries of the directory that a path leads to. -/
def list (tree : Tree) (current : Place) (path : String) : Listing :=
  .ofExcept do
    let (place, node) ← tree.find false current path
    match node with
    | .directory => return tree.entries place
    | .link _ =>
      let (place, node) ← tree.find true current path
      return if node = .directory then tree.entries place else []
    | _ => return []

/-- The path leads to a directory. -/
def isDirectory (tree : Tree) (current : Place) (path : String) : Bool :=
  match tree.find true current path with
  | .ok (_, node) => node = .directory
  | .error _ => false

/-! ### Making a tree -/

/-- The tree with a node at a place, unless there is one. -/
def add (tree : Tree) (place : Place) (node : Node) : Tree :=
  if (tree.node? place).isSome then tree else ⟨tree.nodes ++ [(place, node)]⟩

/-- The tree with a node below a directory, and the directories on the way; links on the way
are followed. -/
def addBelow (tree : Tree) (here : Place) (path : List Name) (node : Node) : Tree :=
  match path with
  | [] => tree
  | [name] => tree.add (here ++ [name]) node
  | name :: rest =>
    match tree.walk true linkLimit here [name] with
    | .ok (place, _) => tree.addBelow place rest node
    | .error _ => (tree.add (here ++ [name]) .directory).addBelow (here ++ [name]) rest node

end Tree

end Files

end PackageRelease
