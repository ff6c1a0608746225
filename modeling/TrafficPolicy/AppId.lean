import TrafficPolicy.Path
import TrafficPolicy.Text.Lowercase
import TrafficPolicy.Text.Utf16

/-!
# Application identities

An application is known to the engine by an opaque sequence of bytes. `AppId.ofPath` makes it from
the path of the program: the lowercase text of the path in UTF-16 with the low byte first, and a
zero unit at the end.
-/

namespace TrafficPolicy

/-- The identity of an application. -/
structure AppId where
  bytes : List UInt8
  deriving DecidableEq, Repr

namespace AppId

/-- The identity of the program at a path. -/
def ofPath (path : Path) : AppId :=
  ⟨Utf16.bytes (Utf16.units (Text.lowercase path.display) ++ [0])⟩

/-- How an identity is shown where its bytes are of no interest. -/
def summary (id : AppId) : String :=
  s!"AppId({id.bytes.length} bytes)"

end AppId

end TrafficPolicy
