/-!
# Addresses

An `Address` is a word of 32 or of 128 bits; `Address.family` tells which. An IPv4-mapped address
is an IPv6 address like any other.
-/

namespace TrafficPolicy

/-- A version of the Internet Protocol. -/
inductive Family where
  | v4
  | v6
  deriving DecidableEq, Repr

/-- An address of either family. -/
inductive Address where
  | v4 (bits : BitVec 32)
  | v6 (bits : BitVec 128)
  deriving DecidableEq, Repr

namespace Address

/-- The family of an address. -/
def family : Address → Family
  | v4 _ => .v4
  | v6 _ => .v6

/-- The address of a family whose bits are all zero. -/
def unspecified : Family → Address
  | .v4 => v4 0
  | .v6 => v6 0

/-- Whether all bits of an address are zero. -/
def isUnspecified (address : Address) : Bool :=
  address = unspecified address.family

/-- The IPv4 address with the given octets. -/
def ofOctets (a b c d : UInt8) : Address :=
  v4 (BitVec.ofNat 32 (((a.toNat * 256 + b.toNat) * 256 + c.toNat) * 256 + d.toNat))

@[simp]
theorem family_unspecified (family : Family) : (unspecified family).family = family := by
  cases family <;> rfl

end Address

end TrafficPolicy
