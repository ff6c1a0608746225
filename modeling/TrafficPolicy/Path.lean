import TrafficPolicy.Text.Utf8

/-!
# Paths

A `Path` is the bytes of a file's path. Two paths name the same thing when their `components` are
equal: repeated slashes, dots in the middle and a slash at the end do not count, while `..` and a
leading dot do.
-/

namespace TrafficPolicy

/-- The bytes of a path. -/
structure Path where
  bytes : List UInt8
  deriving DecidableEq, Repr

/-- A part of a path. -/
inductive Component where
  | root
  | current
  | parent
  | name (bytes : List UInt8)
  deriving DecidableEq, Repr

namespace Path

/-- The byte that separates names. -/
def slash : UInt8 := 0x2F

/-- The byte of a dot. -/
def dot : UInt8 := 0x2E

/-- The path that a text spells. -/
def ofString (text : String) : Path :=
  ⟨Utf8.encode text⟩

/-- The text that a path is shown as, with U+FFFD for each ill-formed part. -/
def display (path : Path) : String :=
  Utf8.decodeLossy path.bytes

/-- Whether a path has no bytes at all. -/
def isEmpty (path : Path) : Bool :=
  path.bytes.isEmpty

/-- Whether a path starts at the root. -/
def isAbsolute (path : Path) : Bool :=
  path.bytes.head? == some slash

/-- The names between the slashes, empty ones included. -/
def split : List UInt8 → List (List UInt8)
  | [] => [[]]
  | byte :: bytes =>
    match split bytes with
    | [] => [[]]
    | name :: names => if byte = slash then [] :: name :: names else (byte :: name) :: names

/-- What a name between slashes means, `none` for a name that says nothing. -/
def componentOf? (name : List UInt8) : Option Component :=
  if name = [] ∨ name = [dot] then none
  else if name = [dot, dot] then some .parent
  else some (.name name)

/-- The parts of a path that count when paths are compared. -/
def components (path : Path) : List Component :=
  let names := split path.bytes
  let start :=
    if path.isAbsolute then [.root]
    else if names.head? = some [dot] then [.current]
    else []
  start ++ names.filterMap componentOf?

/-- Whether two paths have the same components. -/
def same (path other : Path) : Bool :=
  path.components = other.components

@[simp]
theorem same_iff {path other : Path} :
    path.same other = true ↔ path.components = other.components := by
  simp [same]

theorem same_self (path : Path) : path.same path = true := by
  simp

end Path

end TrafficPolicy
