/-!
# UTF-16

The 16-bit units of a text, and their bytes with the low byte first.
-/

namespace TrafficPolicy.Utf16

/-- The units of a character: itself, or a surrogate pair above `0xFFFF`. -/
def unitsOfChar (c : Char) : List UInt16 :=
  if c.toNat < 0x10000 then [c.toNat.toUInt16]
  else
    let offset := c.toNat - 0x10000
    [(0xD800 + offset / 0x400).toUInt16, (0xDC00 + offset % 0x400).toUInt16]

/-- The units of a text. -/
def units (text : String) : List UInt16 :=
  text.toList.flatMap unitsOfChar

/-- A unit as two bytes, the low one first. -/
def littleEndian (unit : UInt16) : List UInt8 :=
  [unit.toUInt8, (unit >>> 8).toUInt8]

/-- The bytes of a sequence of units. -/
def bytes (units : List UInt16) : List UInt8 :=
  units.flatMap littleEndian

end TrafficPolicy.Utf16
