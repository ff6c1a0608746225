import TrafficPolicy.Address
import TrafficPolicy.Text.Numeral

/-!
# Reading addresses

`Address.parse?` accepts four decimal octets without leading zeros, or IPv6 groups of up to four
hexadecimal digits: eight groups, or fewer around one `::` that stands for at least one zero
group. Four octets may stand for the last two groups. The whole text has to be an address.

The readers below take characters and give back what they read with the characters after it.
-/

namespace TrafficPolicy.Address

/-- Reads a numeral of one to `most` digits. -/
def readNumeral? (base most : Nat) (cs : List Char) : Option (List Nat × List Char) :=
  let digits := cs.takeWhile fun c => (Text.digitBelow? base c).isSome
  if digits.isEmpty || most < digits.length then none
  else some (digits.filterMap (Text.digitBelow? base), cs.drop digits.length)

/-- Reads an octet: up to three decimal digits, no leading zero, at most 255. -/
def readOctet? (cs : List Char) : Option (Nat × List Char) := do
  let (digits, rest) ← readNumeral? 10 3 cs
  if digits.head? = some 0 && 1 < digits.length then none
  else if 255 < Text.ofDigits 10 digits then none
  else some (Text.ofDigits 10 digits, rest)

/-- Reads one given character. -/
def readChar? (c : Char) : List Char → Option (List Char)
  | [] => none
  | d :: rest => if d = c then some rest else none

/-- Reads four octets with dots between them. -/
def readDotted? (cs : List Char) : Option (Nat × List Char) := do
  let (a, cs) ← readOctet? cs
  let (b, cs) ← readOctet? (← readChar? '.' cs)
  let (c, cs) ← readOctet? (← readChar? '.' cs)
  let (d, cs) ← readOctet? (← readChar? '.' cs)
  some (((a * 256 + b) * 256 + c) * 256 + d, cs)

/-- Groups read from the front of a text. -/
structure GroupsRead where
  groups : List Nat
  dotted : Bool
  rest : List Char

/-- Reads up to `room` groups with colons between them; `first` says that no colon comes before the
next one. Four dotted octets count as two groups and end the reading. -/
def readGroups (room : Nat) (first : Bool) (cs : List Char) : GroupsRead :=
  match room with
  | 0 => ⟨[], false, cs⟩
  | room + 1 =>
    match if first then some cs else readChar? ':' cs with
    | none => ⟨[], false, cs⟩
    | some start =>
      match if room = 0 then none else readDotted? start with
      | some (word, rest) => ⟨[word / 65536, word % 65536], true, rest⟩
      | none =>
        match readNumeral? 16 4 start with
        | none => ⟨[], false, cs⟩
        | some (digits, rest) =>
          let more := readGroups room false rest
          { more with groups := Text.ofDigits 16 digits :: more.groups }

/-- The IPv6 address with the given groups. -/
def ofGroups (groups : List Nat) : Address :=
  v6 (BitVec.ofNat 128 (Text.ofDigits 65536 groups))

/-- Reads an IPv6 address. -/
def readCompressed? (cs : List Char) : Option (Address × List Char) := do
  let head := readGroups 8 true cs
  if head.groups.length = 8 then some (ofGroups head.groups, head.rest)
  else if head.dotted then none
  else
    let rest ← readChar? ':' (← readChar? ':' head.rest)
    let tail := readGroups (7 - head.groups.length) true rest
    let zeros := List.replicate (8 - head.groups.length - tail.groups.length) 0
    some (ofGroups (head.groups ++ zeros ++ tail.groups), tail.rest)

/-- Reads an address of either family from the front of a text. -/
def read? (cs : List Char) : Option (Address × List Char) :=
  match readDotted? cs with
  | some (word, rest) => some (v4 (BitVec.ofNat 32 word), rest)
  | none => readCompressed? cs

/-- The address that a whole text writes. -/
def parse? (text : String) : Option Address :=
  match read? text.toList with
  | some (address, []) => some address
  | _ => none

end TrafficPolicy.Address
