import TrafficPolicy.Address.Parser
import TrafficPolicy.Address.Printer

/-!
# Networks

A `Network` is an address with the number of its leading bits that count. The other bits are kept
and shown, and do not matter to `Network.contains`.
-/

namespace TrafficPolicy

/-- An address and how many of its leading bits a member has to share. -/
inductive Network where
  | v4 (bits : BitVec 32) (length : Fin 33)
  | v6 (bits : BitVec 128) (length : Fin 129)
  deriving DecidableEq, Repr

namespace Network

/-- The address that the network was written with. -/
def address : Network → Address
  | v4 bits _ => .v4 bits
  | v6 bits _ => .v6 bits

/-- The family of the members. -/
def family (network : Network) : Family :=
  network.address.family

/-- The number of leading bits that count. -/
def length : Network → Nat
  | v4 _ length => length
  | v6 _ length => length

/-- Whether an address is of the network's family and shares its leading bits. -/
def contains : Network → Address → Bool
  | v4 bits length, .v4 other => bits >>> (32 - length.val) = other >>> (32 - length.val)
  | v6 bits length, .v6 other => bits >>> (128 - length.val) = other >>> (128 - length.val)
  | _, _ => false

/-- The address and the length, with a slash between them. -/
def text (network : Network) : String :=
  s!"{network.address.text}/{network.length}"

instance : ToString Network := ⟨text⟩

/-- The network of an address and a length, if the length fits the family. -/
def of? : Address → Nat → Option Network
  | .v4 bits, length => if h : length < 33 then some (v4 bits ⟨length, h⟩) else none
  | .v6 bits, length => if h : length < 129 then some (v6 bits ⟨length, h⟩) else none

/-- The length that a netmask stands for: its ones, all of which come before its zeros. -/
def netmaskLength? (mask : BitVec 32) : Option Nat :=
  (List.range 33).find? fun length => mask = BitVec.allOnes 32 <<< (32 - length)

/-- The length written after the slash: a decimal numeral, or a netmask for an IPv4 network. -/
def parseLength? (address : Address) (text : String) : Option Nat :=
  match address, Address.parse? text with
  | .v4 _, some (.v4 mask) => netmaskLength? mask
  | _, _ => Text.parseNumeral? 10 (if text.startsWith "+" then text.toList.tail else text.toList)

/-- Reads a network. Without a slash all bits of the address count. -/
def parse? (text : String) : Option Network :=
  match text.splitOn "/" with
  | [address] => do
    let address ← Address.parse? address
    of? address (match address with | .v4 _ => 32 | .v6 _ => 128)
  | [address, length] => do
    let address ← Address.parse? address
    of? address (← parseLength? address length)
  | _ => none

end Network

end TrafficPolicy
