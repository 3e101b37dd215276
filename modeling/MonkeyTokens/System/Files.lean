import MonkeyTokens.System.Error

/-!
# Files

Files and directories as a program finds them from its working directory, and how a path leads to
them: component by component, as the system does it, so that the first fault on the way is the one
reported.  Links are followed wherever a file is read or written or a directory is made.

* `FileTree` — the files and directories, by the names that lead to them, and what the system lets
  be written;
* `FileTree.Place`, `FileTree.resolve` — a place in the system, and the way a path leads;
* `FileTree.readBytes`, `readText` — reading;
* `FileTree.write`, `makeDirectory` — writing, which can be refused.

What lies outside the working directory is part of the tree as far as it is given.  Besides, there
are the directories that every system has, its devices, and what a program finds out about itself,
such as its input.
-/

namespace MonkeyTokens

/-- A place in the system. -/
structure FileTree.Place where
  /-- It is the working directory or lies below it. -/
  inside : Bool
  /-- The names that lead to it, from the working directory or from the root of the system. -/
  names : List Text
  deriving DecidableEq, Repr

/-- What stands at a place. -/
inductive FileNode where
  | file (bytes : List UInt8)
  | directory
  /-- What stands at another place, which is no link. -/
  | link (place : FileTree.Place)
  /-- What cannot be opened. -/
  | barred (cause : OsError)
  /-- A file that can be read and keeps its bytes.  What is written to it is refused for a cause;
      without one it is gone. -/
  | fixed (bytes : List UInt8) (refusal : Option OsError)
  /-- The input of the program.  What is written to it is gone. -/
  | input
  deriving DecidableEq, Repr

/-- What the system lets be written. -/
inductive FileTree.Writing where
  | free
  /-- No file can be larger.  What does not fit is refused for a cause. -/
  | upTo (size : Nat) (cause : OsError)
  /-- Nothing can be written or made, for a cause. -/
  | barred (cause : OsError)
  deriving DecidableEq, Repr

/-- Files and directories, each with the names that lead to it.  The directories on the way need no
    entry of their own. -/
structure FileTree where
  /-- Those below the working directory. -/
  entries : List (List Text × FileNode)
  /-- The input of the program, which can be read as a file too. -/
  input : List UInt8
  /-- Those elsewhere, by names from the root. -/
  elsewhere : List (List Text × FileNode) := []
  /-- The names that lead from the root to the working directory. -/
  workingDirectory : List Text := ["tmp".toList, "work".toList]
  writing : FileTree.Writing := .free
  deriving Repr

namespace FileTree

/-- No files, and no input. -/
def empty : FileTree where
  entries := []
  input := []

/-- The components of a path, empty ones included. -/
def components : Text → List Text
  | [] => [[]]
  | c :: cs =>
    if c = '/' then [] :: components cs
    else
      match components cs with
      | [] => [[c]]
      | name :: names => (c :: name) :: names

/-! ## Where things stand -/

/-- What stands where the names lead. -/
def lookup (entries : List (List Text × FileNode)) (names : List Text) : Option FileNode :=
  match entries.find? fun entry => entry.1 = names with
  | some entry => some entry.2
  | none =>
    if names = [] ∨ entries.any (fun entry => names.isPrefixOf entry.1) then some .directory
    else none

/-- Puts something where the names lead. -/
def insert (entries : List (List Text × FileNode)) (names : List Text) (node : FileNode) :
    List (List Text × FileNode) :=
  entries.filter (fun entry => entry.1 ≠ names) ++ [(names, node)]

/-- Puts something where the names lead from the working directory. -/
def set (tree : FileTree) (names : List Text) (node : FileNode) : FileTree :=
  { tree with entries := insert tree.entries names node }

/-- The place outside the working directory that a path from the root leads to, if there are no
    links on the way. -/
def Place.outside (path : String) : Place :=
  ⟨false, components path.toList⟩

/-- Something with the path that leads to it. -/
def entryAt (path : String) (node : FileNode) : List Text × FileNode :=
  (components path.toList, node)

/-- The directories in the root of every system. -/
def rootDirectories : List String :=
  ["bin", "boot", "dev", "etc", "home", "lib", "media", "mnt", "opt", "proc", "root", "run",
    "sbin", "srv", "sys", "tmp", "usr", "var"]

/-- What every system has from its root: directories, devices, and what stands for the program
    itself, whose own file is no text. -/
def system : List (List Text × FileNode) :=
  [ entryAt "dev/null" (.fixed [] none),
    entryAt "dev/tty" (.barred .noDevice),
    entryAt "dev/fd" (.link (.outside "proc/self/fd")),
    entryAt "dev/stdin" (.link (.outside "proc/self/fd/0")),
    entryAt "proc/self/fd/0" .input,
    entryAt "proc/self/exe" (.fixed [0x7F, 0x45, 0x4C, 0x46, 0xFF] (some .fileBusy)),
    entryAt "proc/self/cwd" (.link ⟨true, []⟩),
    entryAt "proc/self/root" (.link ⟨false, []⟩) ] ++
  rootDirectories.map (entryAt · .directory)

/-- All that stands inside the working directory, or all that stands outside. -/
def region (tree : FileTree) (inside : Bool) : List (List Text × FileNode) :=
  if inside then tree.entries
  else tree.elsewhere ++ system ++ [(tree.workingDirectory, .directory)]

/-- What stands at a place. -/
def nodeAt (tree : FileTree) (place : Place) : Option FileNode :=
  lookup (tree.region place.inside) place.names

/-- Puts something at a place. -/
def put (tree : FileTree) (place : Place) (node : FileNode) : FileTree :=
  if place.inside then tree.set place.names node
  else { tree with elsewhere := insert tree.elsewhere place.names node }

/-! ## The way of a path -/

/-- A place by its names from the working directory, if it lies there. -/
def locate (tree : FileTree) (place : Place) : Place :=
  if !place.inside && tree.workingDirectory.isPrefixOf place.names then
    ⟨true, place.names.drop tree.workingDirectory.length⟩
  else place

/-- The directory of a place.  That of the root is the root. -/
def parent (tree : FileTree) (place : Place) : Place :=
  if place.inside && place.names.isEmpty then
    tree.locate ⟨false, tree.workingDirectory.dropLast⟩
  else { place with names := place.names.dropLast }

/-- The place with a name in a directory. -/
def child (tree : FileTree) (place : Place) (name : Text) : Place :=
  tree.locate { place with names := place.names ++ [name] }

/-- The place itself, or the one behind it if it is a link. -/
def behind (tree : FileTree) (place : Place) : Place :=
  match tree.nodeAt place with
  | some (.link target) => tree.locate target
  | _ => place

/-- The longest name of a file, in bytes. -/
def maxName : Nat := 255

/-- The longest path, in bytes. -/
def maxPath : Nat := 4095

/-- Where a component leads that is no name: an empty one and `.` stay, and `..` goes up. -/
def turn? (tree : FileTree) (place : Place) (component : Text) : Option Place :=
  if component = [] ∨ component = ['.'] then some place
  else if component = ['.', '.'] then some (tree.parent place)
  else none

/-- Follows components from a directory.  A name has to be that of something there, of a directory
    unless it is the last. -/
def follow (tree : FileTree) : Place → List Text → Except OsError Place
  | place, [] => .ok place
  | place, component :: more =>
    match tree.turn? place component with
    | some next => follow tree next more
    | none =>
      if maxName < component.byteLength then .error .nameTooLong
      else
        let next := tree.behind (tree.child place component)
        match tree.nodeAt next with
        | none => .error .notFound
        | some .directory => follow tree next more
        | some _ => if more = [] then .ok next else .error .notADirectory

/-- The working directory. -/
def here : Place :=
  ⟨true, []⟩

/-- The place that a path leads to. -/
def resolve (tree : FileTree) (path : Text) : Except SystemError Place :=
  if '\x00' ∈ path then .error .nulInName
  else if maxPath < path.byteLength then .error (.os .nameTooLong)
  else if path = [] then .error (.os .notFound)
  else
    let start := if path.head? = some '/' then tree.locate ⟨false, []⟩ else here
    (tree.follow start (components path)).mapError .os

/-! ## Reading -/

/-- The bytes of the file at a place. -/
def bytesAt (tree : FileTree) (place : Place) : Except SystemError (List UInt8) :=
  match tree.nodeAt place with
  | some (.file bytes) | some (.fixed bytes _) => .ok bytes
  | some .input => .ok tree.input
  | some .directory => .error (.os .isADirectory)
  | some (.link _) => .error (.os .tooManyLinks)
  | some (.barred cause) => .error (.os cause)
  | none => .error (.os .notFound)

/-- The bytes of the file that a path leads to. -/
def readBytes (tree : FileTree) (path : Text) : Except SystemError (List UInt8) :=
  match tree.resolve path with
  | .ok place => tree.bytesAt place
  | .error cause => .error cause

/-- The bytes of the file that names lead to. -/
def readNamed (tree : FileTree) (names : List Text) : Except SystemError (List UInt8) :=
  match tree.follow here names with
  | .ok place => tree.bytesAt place
  | .error cause => .error (.os cause)

/-- The text of the file that a path leads to. -/
def readText (tree : FileTree) (path : Text) : Except SystemError Text :=
  match tree.readBytes path with
  | .error cause => .error cause
  | .ok bytes =>
    match Text.decode? bytes with
    | some text => .ok text
    | none => .error .notUtf8

/-! ## Writing -/

/-- Makes sure that the names lead from a place to a directory, and makes those that are missing.
    Gives the cause if it is refused, and the files as they are then. -/
def makeFrom : FileTree → Place → List Text → Option OsError × FileTree
  | tree, _, [] => (none, tree)
  | tree, place, component :: more =>
    match tree.turn? place component with
    | some next => makeFrom tree next more
    | none =>
      if maxName < component.byteLength then (some .nameTooLong, tree)
      else
        let child := tree.child place component
        let next := tree.behind child
        match tree.nodeAt next with
        | some .directory => makeFrom tree next more
        | some _ => (some (if more = [] then .exists_ else .notADirectory), tree)
        | none =>
          -- a link that leads nowhere stands in the way
          if next ≠ child then (some .exists_, tree)
          else
            match tree.writing with
            | .barred cause => (some cause, tree)
            | .free | .upTo _ _ => makeFrom (tree.put child .directory) child more

/-- Makes sure that the names lead to a directory, and makes those that are missing. -/
def makeDirectory (tree : FileTree) (names : List Text) : Option OsError × FileTree :=
  makeFrom tree here names

/-- Why a file was not written, and the files as they are then. -/
structure Refused where
  cause : SystemError
  files : FileTree

/-- Writes a file at a place, as far as the system lets it be written. -/
def store (tree : FileTree) (place : Place) (bytes : List UInt8) : Except Refused FileTree :=
  match tree.writing with
  | .free => .ok (tree.put place (.file bytes))
  | .upTo size cause =>
    if bytes.length ≤ size then .ok (tree.put place (.file bytes))
    else .error ⟨.os cause, tree.put place (.file (bytes.take size))⟩
  | .barred cause => .error ⟨.os cause, tree⟩

/-- The place of a file with a name in a directory, whether there is one or not. -/
def fileIn (tree : FileTree) (directory : List Text) (name : Text) : Except OsError Place :=
  match tree.follow here directory with
  | .error cause => .error cause
  | .ok place =>
    if tree.nodeAt place = some .directory then .ok (tree.behind (tree.child place name))
    else .error .notADirectory

/-- Writes a file with a name in a directory. -/
def write (tree : FileTree) (directory : List Text) (name : Text) (bytes : List UInt8) :
    Except Refused FileTree :=
  match tree.fileIn directory name with
  | .error cause => .error ⟨.os cause, tree⟩
  | .ok place =>
    match tree.nodeAt place with
    | some (.file _) => tree.store place bytes
    | some (.fixed _ none) | some .input => .ok tree
    | some (.fixed _ (some cause)) | some (.barred cause) => .error ⟨.os cause, tree⟩
    | some .directory => .error ⟨.os .isADirectory, tree⟩
    | some (.link _) => .error ⟨.os .tooManyLinks, tree⟩
    | none =>
      if tree.nodeAt (tree.parent place) = some .directory then tree.store place bytes
      else .error ⟨.os .notFound, tree⟩

end FileTree

end MonkeyTokens
