import TrafficPolicy.Yaml.Scalar

/-!
# Tokens

The tokens that a YAML text consists of, and the readers of those tokens that are not scalars: the
directives at the start of a document, anchors and aliases, and tags.
-/

namespace TrafficPolicy.Yaml

/-- A piece of a YAML text. Where blocks are nested is told by tokens of its own. -/
inductive Token where
  | versionDirective (major minor : Nat)
  /-- A handle, and the octets that it stands for. -/
  | tagDirective (handle : String) (octets : List UInt8)
  | documentStart
  | documentEnd
  | blockSequenceStart
  | blockMappingStart
  | blockEnd
  | flowSequenceStart
  | flowSequenceEnd
  | flowMappingStart
  | flowMappingEnd
  | blockEntry
  | flowEntry
  | key
  | value
  | alias (name : String)
  | anchor (name : String)
  /-- A handle, empty for a tag in full, and the octets that follow it. -/
  | tag (handle : String) (octets : List UInt8)
  | scalar (style : Style) (text : List Char)
  deriving DecidableEq, Repr

/-! ## Anchors and aliases -/

/-- Reads the name of an anchor or alias, from after its indicator. -/
def readAnchorName? (cursor : Cursor) : Option (String × Cursor) :=
  let name := cursor.takeWhile isWordChar
  let after := cursor.skip name.length
  let ended := after.front?.all fun c =>
    !isSolid c || c = '?' || c = ':' || c = ',' || c = ']' || c = '\x7d' || c = '%' || c = '@' ||
      c = Char.ofNat 0x60
  if name.isEmpty || !ended then none else some (String.ofList name, after)

/-! ## Tags -/

/-- Whether a character may stand in a tag. `full` tells that the tag is written in full, which
allows flow indicators other than braces. -/
def isTagChar (full : Bool) (c : Char) : Bool :=
  isWordChar c || ";/?:@&=+$.%!~*'()".toList.contains c || (full && (c = ',' || c = '[' || c = ']'))

/-- Reads an octet that is written as `%` and two hexadecimal digits. -/
def escapedOctet? : List Char → Option Nat
  | '%' :: high :: low :: _ => Text.parseNumeral? 16 [high, low]
  | _ => none

/-- The number of octets in a character that starts with an octet. -/
def octetCount? (octet : Nat) : Option Nat :=
  if octet < 0x80 then some 1
  else if octet < 0xC0 then none
  else if octet < 0xE0 then some 2
  else if octet < 0xF0 then some 3
  else if octet < 0xF8 then some 4
  else none

/-- Reads `count` more octets of a character. -/
def readTrailingOctets? : Nat → Cursor → Option (List UInt8 × Cursor)
  | 0, cursor => some ([], cursor)
  | count + 1, cursor => do
    let octet ← escapedOctet? cursor.rest
    if octet / 0x40 ≠ 2 then none
    else
      let (octets, cursor) ← readTrailingOctets? count (cursor.skip 3)
      return (octet.toUInt8 :: octets, cursor)

/-- Reads a character of a tag that is written by its octets. -/
def readEscapedOctets? (cursor : Cursor) : Option (List UInt8 × Cursor) := do
  let octet ← escapedOctet? cursor.rest
  let count ← octetCount? octet
  let (octets, cursor) ← readTrailingOctets? (count - 1) (cursor.skip 3)
  return (octet.toUInt8 :: octets, cursor)

/-- Reads on in the octets of a tag. -/
def readTagOctets? (full : Bool) : Nat → List UInt8 → Cursor → Option (List UInt8 × Cursor)
  | 0, octets, cursor => some (octets, cursor)
  | fuel + 1, octets, cursor =>
    match cursor.front? with
    | none => some (octets, cursor)
    | some c =>
      if !isTagChar full c then some (octets, cursor)
      else if c = '%' then do
        let (more, cursor) ← readEscapedOctets? cursor
        readTagOctets? full fuel (octets ++ more) cursor
      else readTagOctets? full fuel (octets ++ [c.toNat.toUInt8]) (cursor.skip 1)

/-- The octets before the first zero. -/
def untilZero (octets : List UInt8) : List UInt8 :=
  octets.takeWhile (· ≠ 0)

/-- Reads the octets of a tag, which must not be missing unless `head` is nonempty. `head` comes
before them. -/
def readTagText? (full : Bool) (head : List UInt8) (cursor : Cursor) :
    Option (List UInt8 × Cursor) := do
  let (octets, after) ← readTagOctets? full cursor.rest.length [] cursor
  if head.isEmpty && after.index = cursor.index then none
  else return (untilZero (head.drop 1 ++ octets), after)

/-- Reads a handle: an exclamation mark, a word, and perhaps another exclamation mark. -/
def readHandle? (cursor : Cursor) : Option (String × Cursor) :=
  if !cursor.isAt '!' then none
  else
    let word := (cursor.skip 1).takeWhile isWordChar
    let after := cursor.skip (word.length + 1)
    if after.isAt '!' then some (String.ofList ('!' :: word ++ ['!']), after.skip 1)
    else some (String.ofList ('!' :: word), after)

/-- Whether a handle has an exclamation mark at both ends. -/
def isNamedHandle (handle : String) : Bool :=
  2 ≤ handle.length && handle.endsWith "!"

/-- The octets of a handle. -/
def handleOctets (handle : String) : List UInt8 :=
  handle.toList.map (·.toNat.toUInt8)

/-- Reads a handle and octets of a tag at the place of its exclamation mark. -/
def readTagParts? (cursor : Cursor) : Option (String × List UInt8 × Cursor) :=
  if cursor.ahead? 1 = some '<' then do
    let (octets, after) ← readTagText? true [] (cursor.skip 2)
    if after.isAt '>' then return ("", octets, after.skip 1) else none
  else do
    let (handle, after) ← readHandle? cursor
    if isNamedHandle handle then
      let (octets, after) ← readTagText? false [] after
      return (handle, octets, after)
    else
      let (octets, after) ← readTagText? false (handleOctets handle) after
      if octets.isEmpty then return ("", handleOctets "!", after) else return ("!", octets, after)

/-- Reads a tag. Inside a flow collection a comma may follow at once. -/
def readTag? (inFlow : Bool) (cursor : Cursor) : Option (Token × Cursor) := do
  let (handle, octets, after) ← readTagParts? cursor
  if after.endsWord 0 || (inFlow && after.isAt ',') then return (.tag handle octets, after)
  else none

/-! ## Directives -/

/-- Reads a part of a version number: up to nine digits. -/
def readVersionPart? (cursor : Cursor) : Option (Nat × Cursor) := do
  let digits := cursor.takeWhile Char.isDigit
  if 9 < digits.length then none
  else return (← Text.parseNumeral? 10 digits, cursor.skip digits.length)

/-- Reads the version that a directive declares. -/
def readVersion? (cursor : Cursor) : Option (Token × Cursor) := do
  let (major, cursor) ← readVersionPart? (cursor.skipWhile isBlank)
  if !cursor.isAt '.' then none
  else
    let (minor, cursor) ← readVersionPart? (cursor.skip 1)
    return (.versionDirective major minor, cursor)

/-- Reads the handle that a directive declares, and what it stands for. -/
def readTagDeclaration? (cursor : Cursor) : Option (Token × Cursor) := do
  let (handle, cursor) ← readHandle? (cursor.skipWhile isBlank)
  if !(isNamedHandle handle || handle = "!") || !cursor.front?.any isBlank then none
  else
    let (octets, cursor) ← readTagText? true [] (cursor.skipWhile isBlank)
    if cursor.endsWord 0 then return (.tagDirective handle octets, cursor) else none

/-- Reads a directive, with the rest of its line. -/
def readDirective? (cursor : Cursor) : Option (Token × Cursor) := do
  let name := (cursor.skip 1).takeWhile isWordChar
  let after := cursor.skip (name.length + 1)
  if !after.endsWord 0 then none
  else
    let (token, after) ←
      if name = ['Y', 'A', 'M', 'L'] then readVersion? after
      else if name = ['T', 'A', 'G'] then readTagDeclaration? after
      else none
    return (token, ← after.finishLine?)

end TrafficPolicy.Yaml
