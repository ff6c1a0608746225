/-!
# Places in a YAML text

The classes of characters that YAML's rules speak of, and `Cursor`, a place in a text together
with its line and column. Readers take a cursor and give what they read with the cursor behind it,
or `none` if the text breaks a rule.
-/

namespace TrafficPolicy.Yaml

/-! ## Characters -/

/-- The mark that may come before the first character of a text. -/
def byteOrderMark : Char := '\uFEFF'

/-- Whether a character may occur in a YAML text at all. -/
def isPrintable (c : Char) : Bool :=
  let code := c.toNat
  code == 0x09 || code == 0x0A || code == 0x0D || (0x20 ≤ code && code ≤ 0x7E) || code == 0x85 ||
    (0xA0 ≤ code && code ≤ 0xD7FF) || (0xE000 ≤ code && code ≤ 0xFFFD) ||
    (0x10000 ≤ code && code ≤ 0x10FFFF)

/-- Whether a character is a space or a tab. -/
def isBlank (c : Char) : Bool :=
  c = ' ' || c = '\t'

/-- Whether a character ends a line. -/
def isBreak (c : Char) : Bool :=
  c = '\n' || c = '\r' || c = '\u0085' || c = '\u2028' || c = '\u2029'

/-- Whether a character is neither blank nor a line's end. -/
def isSolid (c : Char) : Bool :=
  !isBlank c && !isBreak c

/-- Whether a character may stand in the name of an anchor, a directive or a handle. -/
def isWordChar (c : Char) : Bool :=
  c.isAlphanum || c = '-' || c = '_'

/-- Whether a character is one of those that collections in brackets and braces are written with. -/
def isFlowIndicator (c : Char) : Bool :=
  c = ',' || c = '[' || c = ']' || c = '\x7b' || c = '\x7d'

/-! ## Cursors -/

/-- A place in a text: what comes after it, how far it is from the start, and its line and column.
-/
structure Cursor where
  rest : List Char
  index : Nat := 0
  line : Nat := 0
  column : Nat := 0

namespace Cursor

/-- The character at the cursor. -/
def front? (cursor : Cursor) : Option Char :=
  cursor.rest.head?

/-- The character `n` places after the cursor. -/
def ahead? (cursor : Cursor) (n : Nat) : Option Char :=
  cursor.rest[n]?

/-- Whether the character at the cursor is `c`. -/
def isAt (cursor : Cursor) (c : Char) : Bool :=
  cursor.front? = some c

/-- Whether the character `n` places after the cursor is blank, ends the line, or is missing. -/
def endsWord (cursor : Cursor) (n : Nat) : Bool :=
  (cursor.ahead? n).all (!isSolid ·)

/-- Whether the cursor is at the end of a line or of the text. -/
def atLineEnd (cursor : Cursor) : Bool :=
  cursor.front?.all isBreak

/-- Goes past `n` characters of a line. -/
def skip (cursor : Cursor) (n : Nat) : Cursor :=
  { cursor with
    rest := cursor.rest.drop n
    index := cursor.index + n
    column := cursor.column + n }

/-- Goes past the characters of a line for which a test holds. -/
def skipWhile (cursor : Cursor) (test : Char → Bool) : Cursor :=
  cursor.skip (cursor.rest.takeWhile test).length

/-- The characters at the cursor for which a test holds. -/
def takeWhile (cursor : Cursor) (test : Char → Bool) : List Char :=
  cursor.rest.takeWhile test

/-- Goes to the start of the next line, past `n` characters. -/
def nextLine (cursor : Cursor) (n : Nat) : Cursor :=
  { rest := cursor.rest.drop n, index := cursor.index + n, line := cursor.line + 1, column := 0 }

/-- Reads the end of a line. All ends but the separators of lines and paragraphs become line
feeds. -/
def readBreak (cursor : Cursor) : List Char × Cursor :=
  match cursor.rest with
  | '\r' :: '\n' :: _ => (['\n'], cursor.nextLine 2)
  | c :: _ =>
    if c = '\u2028' || c = '\u2029' then ([c], cursor.nextLine 1)
    else if isBreak c then (['\n'], cursor.nextLine 1)
    else ([], cursor)
  | [] => ([], cursor)

/-- Goes past the end of a line, if the cursor is at one. -/
def skipBreak (cursor : Cursor) : Cursor :=
  cursor.readBreak.2

/-- Goes past blanks and a comment, to what has to be the end of a line, and past it. -/
def finishLine? (cursor : Cursor) : Option Cursor :=
  let cursor := cursor.skipWhile isBlank
  let cursor := if cursor.isAt '#' then cursor.skipWhile (!isBreak ·) else cursor
  if cursor.atLineEnd then some cursor.skipBreak else none

/-- Whether a line starts with three times `c`, alone or before a blank. -/
def startsMarker (cursor : Cursor) (c : Char) : Bool :=
  cursor.column = 0 && cursor.rest.take 3 = [c, c, c] && cursor.endsWord 3

/-- Whether a line starts with a marker of the start or the end of a document. -/
def atMarker (cursor : Cursor) : Bool :=
  cursor.startsMarker '-' || cursor.startsMarker '.'

end Cursor

end TrafficPolicy.Yaml
