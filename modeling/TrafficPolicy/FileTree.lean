import TrafficPolicy.System

/-!
# File trees

A `FileTree` is the contents of a file system. Paths are followed as the system does it: every
name on the way has to exist, what is not the last name has to be a directory, and links are
replaced by their targets, up to forty of them.
-/

namespace TrafficPolicy

/-- A name in a directory. -/
abbrev FileName := List UInt8

/-- What a name stands for. -/
inductive FileEntry where
  | file (bytes : List UInt8)
  | directory
  | link (target : Path)
  | device
  deriving DecidableEq, Repr

/-- The entries of a file system, by the names from the root. The root is always there. -/
structure FileTree where
  entries : List (List FileName × FileEntry) := []

namespace FileTree

/-- The entry at a place. -/
def entry? (tree : FileTree) (place : List FileName) : Option FileEntry :=
  if place.isEmpty then some .directory else tree.entries.lookup place

/-- The tree with another entry at a place. -/
def set (tree : FileTree) (place : List FileName) (entry : FileEntry) : FileTree :=
  { entries := (place, entry) :: tree.entries.filter (·.1 ≠ place) }

/-- Whether there is a directory at a place. -/
def isDirectory (tree : FileTree) (place : List FileName) : Bool :=
  tree.entry? place = some .directory

/-- Whether a name between slashes stays where it is. -/
def isStill (name : FileName) : Bool :=
  name.isEmpty || name = [Path.dot]

/-- Whether a name between slashes goes to the directory around. -/
def isUp (name : FileName) : Bool :=
  name = [Path.dot, Path.dot]

/-- Where the following of a path starts from a place. -/
def start (path : Path) (place : List FileName) : List FileName :=
  if path.isAbsolute then [] else place

/-! ## Following paths -/

/-- Follows names from a place. At most `links` links may be replaced. -/
def follow (tree : FileTree) :
    Nat → Nat → List FileName → List FileName → Except SystemError (List FileName)
  | _, _, place, [] => .ok place
  | 0, _, _, _ => .error .tooManyLinks
  | fuel + 1, links, place, name :: names =>
    if !tree.isDirectory place then .error .notADirectory
    else if isStill name then follow tree fuel links place names
    else if isUp name then follow tree fuel links place.dropLast names
    else if 255 < name.length then .error .nameTooLong
    else match tree.entry? (place ++ [name]) with
      | none => .error .notFound
      | some (.link target) =>
        match links with
        | 0 => .error .tooManyLinks
        | links + 1 =>
          follow tree fuel links (start target place) (Path.split target.bytes ++ names)
      | some _ => follow tree fuel links (place ++ [name]) names

/-- The number of steps that following a path can take. -/
def followFuel (tree : FileTree) (path : Path) : Nat :=
  let longest := (tree.entries.map fun entry => match entry.2 with
    | .link target => target.bytes.length + 1
    | _ => 0).foldl max 0
  path.bytes.length + 1 + 40 * (longest + 1)

/-- The place that a path leads to. -/
def locate (tree : FileTree) (path : Path) : Except SystemError (List FileName) :=
  if path.bytes.contains 0 then .error .nulByte
  else if path.isEmpty then .error .notFound
  else tree.follow (tree.followFuel path) 40 [] (Path.split path.bytes)

/-- The path of a place. -/
def pathOf (place : List FileName) : Path :=
  if place.isEmpty then ⟨[Path.slash]⟩ else ⟨place.flatMap fun name => Path.slash :: name⟩

/-- The file that a path leads to. -/
def find (tree : FileTree) (path : Path) : Except SystemError FoundFile := do
  let place ← tree.locate path
  let isRegular := match tree.entry? place with
    | some (.file _) => true
    | _ => false
  return ⟨pathOf place, isRegular⟩

/-- The bytes of the file that a path leads to. -/
def read (tree : FileTree) (path : Path) : Except SystemError (List UInt8) := do
  if 4096 ≤ path.bytes.length then throw .nameTooLong
  match tree.entry? (← tree.locate path) with
  | some (.file bytes) => return bytes
  | some .directory => throw .isADirectory
  | some .device => return []
  | some (.link _) | none => throw .notFound

/-- The tree as the system around a policy. -/
def system (tree : FileTree) : System where
  read := tree.read
  find := tree.find

/-! ## Making entries -/

/-- Makes the directories along names that are missing, and gives the place they lead to. -/
def makeDirectories : Nat → FileTree → List FileName → List FileName → FileTree × List FileName
  | _, tree, place, [] => (tree, place)
  | 0, tree, place, _ => (tree, place)
  | fuel + 1, tree, place, name :: names =>
    if isStill name then makeDirectories fuel tree place names
    else if isUp name then makeDirectories fuel tree place.dropLast names
    else match tree.entry? (place ++ [name]) with
      | some (.link target) =>
        makeDirectories fuel tree (start target place) (Path.split target.bytes ++ names)
      | some _ => makeDirectories fuel tree (place ++ [name]) names
      | none =>
        makeDirectories fuel (tree.set (place ++ [name]) .directory) (place ++ [name]) names

/-- Makes a directory, with those around it. -/
def makeDirectory (tree : FileTree) (path : Path) : FileTree :=
  (makeDirectories (tree.followFuel path) tree [] (Path.split path.bytes)).1

/-- Makes an entry at the end of a path, with the directories around it. A file goes where a link
at its place leads; a link does not replace what is there. -/
def makeEntry (entry : FileEntry) : Nat → FileTree → List FileName → List FileName → FileTree
  | 0, tree, _, _ => tree
  | fuel + 1, tree, origin, names =>
    let (tree, around) :=
      makeDirectories (tree.followFuel (pathOf names)) tree origin names.dropLast
    let place := around ++ names.getLast?.toList
    match entry, tree.entry? place with
    | .file _, some (.link target) =>
      makeEntry entry fuel tree (start target around) (Path.split target.bytes)
    | .link _, some _ => tree
    | _, _ => tree.set place entry

/-- Makes a file, or writes its bytes anew. -/
def makeFile (tree : FileTree) (path : Path) (bytes : List UInt8) : FileTree :=
  makeEntry (.file bytes) 40 tree [] (Path.split path.bytes)

/-- Makes a link. -/
def makeLink (tree : FileTree) (path target : Path) : FileTree :=
  makeEntry (.link target) 40 tree [] (Path.split path.bytes)

end FileTree

end TrafficPolicy
