import TrafficPolicy.Address

/-!
# The text of an address

IPv4 addresses are written as four decimal octets. IPv6 addresses are written as lowercase
hexadecimal groups, the longest run of at least two zero groups (the first among equals) shortened
to `::`; an IPv4-mapped address ends in the four octets.
-/

namespace TrafficPolicy.Address

/-- The four octets of an IPv4 address, the most significant first. -/
def octets (bits : BitVec 32) : List Nat :=
  [24, 16, 8, 0].map fun shift => bits.toNat >>> shift % 256

/-- The eight groups of an IPv6 address, the most significant first. -/
def groups (bits : BitVec 128) : List Nat :=
  [112, 96, 80, 64, 48, 32, 16, 0].map fun shift => bits.toNat >>> shift % 65536

/-- The dotted text of an IPv4 address. -/
def dotted (bits : BitVec 32) : String :=
  ".".intercalate ((octets bits).map fun octet => toString octet)

/-- Hexadecimal groups with a colon between each two. -/
def colonSeparated (groups : List Nat) : String :=
  ":".intercalate (groups.map fun group => String.ofList (Nat.toDigits 16 group))

/-- The start and length of the longest run of zeros, the first among equals. -/
def longestZeroRun (groups : List Nat) : Nat × Nat :=
  (List.range groups.length).foldl
    (fun best start =>
      let length := ((groups.drop start).takeWhile (· == 0)).length
      if best.2 < length then (start, length) else best)
    (0, 0)

/-- The IPv4 address inside an IPv4-mapped one. -/
def mapped? (bits : BitVec 128) : Option (BitVec 32) :=
  if bits >>> 32 = 0xFFFF then some (bits.truncate 32) else none

/-- The text of an IPv6 address. -/
def compressed (bits : BitVec 128) : String :=
  match mapped? bits with
  | some inner => "::ffff:" ++ dotted inner
  | none =>
    let (start, length) := longestZeroRun (groups bits)
    if 2 ≤ length then
      colonSeparated ((groups bits).take start) ++ "::" ++
        colonSeparated ((groups bits).drop (start + length))
    else colonSeparated (groups bits)

/-- The text of an address. -/
def text : Address → String
  | v4 bits => dotted bits
  | v6 bits => compressed bits

instance : ToString Address := ⟨text⟩

end TrafficPolicy.Address
