import TrafficPolicy.AppId
import TrafficPolicy.Proofs.Text.ZeroBytes

/-!
# What an application identity tells

The identity of a program is the text of its path in lowercase, written in UTF-16 and closed by a
zero unit.  The text can be read back from it (`Utf16.decode?_eq_some_iff`), so two programs share
an identity only if their paths differ by letter case and by ill-formed bytes that are shown alike.
-/

namespace TrafficPolicy.AppId

/-- An identity is the text of the path and a zero unit. -/
theorem bytes_ofPath (path : Path) :
    (ofPath path).bytes = Utf16.bytes (Utf16.units (Text.lowercase path.display)) ++ [0, 0] := by
  have closing : Utf16.bytes [0] = [0, 0] := rfl
  rw [ofPath, Utf16.bytes_append, closing]

/-- The bytes of an identity before its end are the text of the path and nothing else. -/
theorem take_bytes_ofPath (path : Path) :
    (ofPath path).bytes.take ((ofPath path).bytes.length - 2) =
      Utf16.bytes (Utf16.units (Text.lowercase path.display)) := by
  rw [bytes_ofPath, List.length_append, List.length_cons, List.length_singleton,
    Nat.add_sub_cancel, List.take_left]

theorem decode?_take_bytes_ofPath (path : Path) :
    Utf16.decode? ((ofPath path).bytes.take ((ofPath path).bytes.length - 2)) =
      some (Text.lowercase path.display) := by
  rw [take_bytes_ofPath, Utf16.decode?_bytes]

theorem length_bytes_ofPath_mod_two (path : Path) : (ofPath path).bytes.length % 2 = 0 := by
  rw [ofPath, Utf16.length_bytes, Nat.mul_mod_right]

theorem units?_bytes_ofPath (path : Path) :
    Utf16.units? (ofPath path).bytes =
      some (Utf16.units (Text.lowercase path.display) ++ [0]) := by
  rw [ofPath, Utf16.units?_bytes]

/-- Two programs have the same identity exactly if the texts of their paths agree in lowercase. -/
theorem ofPath_eq_iff {path other : Path} :
    ofPath path = ofPath other ↔ Text.lowercase path.display = Text.lowercase other.display := by
  constructor
  · intro same
    have read := decode?_take_bytes_ofPath path
    rw [same, decode?_take_bytes_ofPath] at read
    exact (Option.some.inj read).symm
  · intro same
    rw [ofPath, ofPath, same]

/-- The units of the text of a path hold a zero exactly if the path holds a zero byte. -/
theorem zero_mem_units_ofPath (path : Path) :
    0 ∈ Utf16.units (Text.lowercase path.display) ↔ 0 ∈ path.bytes := by
  rw [Utf16.zero_mem_units, Text.nul_mem_lowercase, Path.display, Utf8.nul_mem_decodeLossy]

/-- An identity spells the lowercase text of a path and closes it with a zero unit.  Its length is
even, the text can be read back from all but its last two bytes, identities are equal exactly if the
texts are, and the last unit is the only zero one unless the path itself has a zero byte. -/
theorem ofPath_spells (path : Path) :
    let text := Text.lowercase path.display
    let bytes := (ofPath path).bytes
    bytes = Utf16.bytes (Utf16.units text) ++ [0, 0] ∧ bytes.length % 2 = 0 ∧
      Utf16.decode? (bytes.take (bytes.length - 2)) = some text ∧
      (∀ other, ofPath path = ofPath other ↔ text = Text.lowercase other.display) ∧
      ∃ units, Utf16.units? bytes = some (units ++ [0]) ∧ (0 ∈ units ↔ 0 ∈ path.bytes) :=
  ⟨bytes_ofPath path, length_bytes_ofPath_mod_two path, decode?_take_bytes_ofPath path,
    fun _ => ofPath_eq_iff, _, units?_bytes_ofPath path, zero_mem_units_ofPath path⟩

end TrafficPolicy.AppId
