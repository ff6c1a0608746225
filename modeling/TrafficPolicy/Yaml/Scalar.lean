import TrafficPolicy.Text.Numeral
import TrafficPolicy.Yaml.Cursor

/-!
# Scalars

The texts of a YAML document, in each of the styles they can be written in: plain, between single
or double quotation marks, and as a block that is literal or folded. A `Gap` is what lies between
two pieces of a scalar; a single line end in it counts as a space.
-/

namespace TrafficPolicy.Yaml

/-- How a scalar is written. -/
inductive Style where
  | plain
  | singleQuoted
  | doubleQuoted
  | literal
  | folded
  deriving DecidableEq, Repr

/-! ## Gaps -/

/-- Blanks and line ends between two pieces of a scalar. -/
structure Gap where
  /-- The blanks before the first line end. -/
  blanks : List Char := []
  /-- Whether a line ends in the gap. -/
  broken : Bool := false
  /-- What the first line end stands for; nothing if it is escaped. -/
  first : List Char := []
  /-- What the other line ends stand for. -/
  others : List Char := []

namespace Gap

/-- The gap with one more line end. -/
def addBreak (gap : Gap) (text : List Char) : Gap :=
  if gap.broken then { gap with others := gap.others ++ text }
  else { gap with blanks := [], broken := true, first := text }

/-- The gap with one more blank, which counts only before the first line end. -/
def addBlank (gap : Gap) (c : Char) : Gap :=
  if gap.broken then gap else { gap with blanks := gap.blanks ++ [c] }

/-- The text that a gap stands for. -/
def text (gap : Gap) : List Char :=
  if !gap.broken then gap.blanks
  else if gap.first = ['\n'] then
    if gap.others.isEmpty then [' '] else gap.others
  else gap.first ++ gap.others

/-- Reads on in a gap. After a line end no tab may stand in a column before `indent`. -/
def read? (indent : Nat) : Nat → Gap → Cursor → Option (Gap × Cursor)
  | 0, gap, cursor => some (gap, cursor)
  | fuel + 1, gap, cursor =>
    match cursor.front? with
    | none => some (gap, cursor)
    | some c =>
      if isBlank c then
        if gap.broken && c = '\t' && cursor.column < indent then none
        else read? indent fuel (gap.addBlank c) (cursor.skip 1)
      else if isBreak c then
        let (text, cursor) := cursor.readBreak
        read? indent fuel (gap.addBreak text) cursor
      else some (gap, cursor)

/-- Reads a whole gap that starts as `gap`. -/
def readAll? (indent : Nat) (gap : Gap) (cursor : Cursor) : Option (Gap × Cursor) :=
  read? indent cursor.rest.length gap cursor

end Gap

/-! ## Plain scalars -/

/-- Whether a plain scalar ends before `c` with `next` after it. -/
def endsPlain (inFlow : Bool) (c : Char) (next : Option Char) : Bool :=
  (c = ':' && next.all (!isSolid ·)) || (inFlow && isFlowIndicator c)

/-- Whether `c` with `next` after it may not stand in a plain scalar inside a flow collection. -/
def spoilsPlain (inFlow : Bool) (c : Char) (next : Option Char) : Bool :=
  inFlow && c = ':' && next.any fun d => d = '?' || isFlowIndicator d

/-- The characters of a plain scalar up to a blank, a line end or the end of the scalar. -/
def plainWord? (inFlow : Bool) : List Char → Option (List Char)
  | [] => some []
  | c :: rest =>
    if !isSolid c then some []
    else if spoilsPlain inFlow c rest.head? then none
    else if endsPlain inFlow c rest.head? then some []
    else (plainWord? inFlow rest).map (c :: ·)

/-- A plain scalar, whether it ended after a line end, and the place after it. -/
structure PlainScalar where
  text : List Char
  broken : Bool
  cursor : Cursor

/-- Reads on in a plain scalar that has `text` so far and a gap after it. -/
def readPlain? (inFlow : Bool) (indent : Nat) :
    Nat → List Char → Gap → Cursor → Option PlainScalar
  | 0, text, gap, cursor => some ⟨text, gap.broken, cursor⟩
  | fuel + 1, text, gap, cursor =>
    if cursor.atMarker || cursor.isAt '#' then some ⟨text, gap.broken, cursor⟩
    else do
      let word ← plainWord? inFlow cursor.rest
      if word.isEmpty then some ⟨text, gap.broken, cursor⟩
      else
        let text := text ++ gap.text ++ word
        let (gap, after) ← Gap.readAll? indent {} (cursor.skip word.length)
        let ended := after.index = cursor.index + word.length
        if ended || (!inFlow && after.column < indent) then some ⟨text, gap.broken, after⟩
        else readPlain? inFlow indent fuel text gap after

/-! ## Quoted scalars -/

/-- The character that a letter after a backslash stands for. -/
def simpleEscape? : Char → Option Char
  | '0' => some (Char.ofNat 0)
  | 'a' => some (Char.ofNat 7)
  | 'b' => some (Char.ofNat 8)
  | 't' | '\t' => some '\t'
  | 'n' => some '\n'
  | 'v' => some (Char.ofNat 11)
  | 'f' => some (Char.ofNat 12)
  | 'r' => some '\r'
  | 'e' => some (Char.ofNat 27)
  | ' ' => some ' '
  | '"' => some '"'
  | '/' => some '/'
  | '\\' => some '\\'
  | 'N' => some '\u0085'
  | '_' => some '\u00A0'
  | 'L' => some '\u2028'
  | 'P' => some '\u2029'
  | _ => none

/-- How many hexadecimal digits follow a letter after a backslash. -/
def escapeDigits? : Char → Option Nat
  | 'x' => some 2
  | 'u' => some 4
  | 'U' => some 8
  | _ => none

/-- The character with a number, unless the number is a surrogate or too large. -/
def charOfCode? (code : Nat) : Option Char :=
  if code.isValidChar then some (Char.ofNat code) else none

/-- The character that an escape stands for, and the length of the escape; `cs` starts after the
backslash. -/
def escape? : List Char → Option (Char × Nat)
  | [] => none
  | c :: rest =>
    match escapeDigits? c with
    | none => (simpleEscape? c).map ((·, 2))
    | some count => do
      let digits := rest.take count
      if digits.length < count then none
      else
        let code ← Text.parseNumeral? 16 digits
        return (← charOfCode? code, count + 2)

/-- Characters of a quoted scalar up to a blank, a line end or the mark. `escaped` tells that they
ended with an escaped line end, which the cursor is then past. -/
structure QuotedWord where
  text : List Char
  escaped : Bool
  cursor : Cursor

/-- Reads on in the word of a quoted scalar. -/
def readQuotedWord? (double : Bool) : Nat → List Char → Cursor → Option QuotedWord
  | 0, text, cursor => some ⟨text, false, cursor⟩
  | fuel + 1, text, cursor =>
    match cursor.rest with
    | [] => some ⟨text, false, cursor⟩
    | c :: rest =>
      if !isSolid c then some ⟨text, false, cursor⟩
      else if double then
        if c = '"' then some ⟨text, false, cursor⟩
        else if c = '\\' then
          if rest.head?.any isBreak then some ⟨text, true, (cursor.skip 1).skipBreak⟩
          else do
            let (d, length) ← escape? rest
            readQuotedWord? double fuel (text ++ [d]) (cursor.skip length)
        else readQuotedWord? double fuel (text ++ [c]) (cursor.skip 1)
      else if c = '\'' then
        if rest.head? = some '\'' then readQuotedWord? double fuel (text ++ [c]) (cursor.skip 2)
        else some ⟨text, false, cursor⟩
      else readQuotedWord? double fuel (text ++ [c]) (cursor.skip 1)

/-- Reads on in a quoted scalar that has `text` so far, up to and past its mark. -/
def readQuoted? (double : Bool) : Nat → List Char → Cursor → Option (List Char × Cursor)
  | 0, _, _ => none
  | fuel + 1, text, cursor =>
    if cursor.atMarker || cursor.rest.isEmpty then none
    else do
      let word ← readQuotedWord? double cursor.rest.length [] cursor
      let text := text ++ word.text
      if word.cursor.isAt (if double then '"' else '\'') then some (text, word.cursor.skip 1)
      else
        let (gap, cursor) ← Gap.readAll? 0 { broken := word.escaped } word.cursor
        readQuoted? double fuel (text ++ gap.text) cursor

/-! ## Block scalars -/

/-- What becomes of the line ends at the end of a block. -/
inductive Chomping where
  | clip
  | strip
  | keep
  deriving DecidableEq, Repr

/-- Reads a chomping indicator. -/
def readChomping (cursor : Cursor) : Chomping × Cursor :=
  if cursor.isAt '+' then (.keep, cursor.skip 1)
  else if cursor.isAt '-' then (.strip, cursor.skip 1)
  else (.clip, cursor)

/-- Reads an indentation indicator, from 1 to 9; 0 stands for none. -/
def readIncrement? (cursor : Cursor) : Option (Nat × Cursor) :=
  match cursor.front? with
  | some c =>
    if c = '0' then none
    else if c.isDigit then some (c.toNat - 48, cursor.skip 1)
    else some (0, cursor)
  | none => some (0, cursor)

/-- Reads the indicators of a block, in either order. -/
def readBlockHeader? (cursor : Cursor) : Option (Chomping × Nat × Cursor) := do
  let (before, cursor) := readChomping cursor
  let (increment, cursor) ← readIncrement? cursor
  if before = .clip && increment ≠ 0 then
    let (after, cursor) := readChomping cursor
    return (after, increment, cursor)
  else return (before, increment, cursor)

/-- The empty lines before a line of a block: what their ends stand for, and the greatest column
that was reached in them. -/
structure EmptyLines where
  breaks : List Char
  widest : Nat
  cursor : Cursor

/-- Reads the indentation of a line and the empty lines before it. `indent` is 0 while the
indentation of the block is not known. -/
def readEmptyLines? (indent : Nat) : Nat → EmptyLines → Option EmptyLines
  | 0, lines => some lines
  | fuel + 1, lines =>
    let spaces := (lines.cursor.takeWhile (· = ' ')).length
    let spaces := if indent = 0 then spaces else min spaces (indent - lines.cursor.column)
    let cursor := lines.cursor.skip spaces
    let widest := max lines.widest cursor.column
    if (indent = 0 || cursor.column < indent) && cursor.isAt '\t' then none
    else if cursor.front?.any isBreak then
      let (text, cursor) := cursor.readBreak
      readEmptyLines? indent fuel ⟨lines.breaks ++ text, widest, cursor⟩
    else some ⟨lines.breaks, widest, cursor⟩

/-- The lines of a block read so far: the text, the end of the last line, the ends of the empty
lines after it, and whether the last line started with a blank. -/
structure BlockLines where
  text : List Char := []
  leading : List Char := []
  trailing : List Char
  blank : Bool := false
  cursor : Cursor

/-- What the line ends before the next line of a block stand for. -/
def BlockLines.joint (lines : BlockLines) (folded blank : Bool) : List Char :=
  if folded && lines.leading = ['\n'] && !lines.blank && !blank then
    if lines.trailing.isEmpty then [' '] else lines.trailing
  else lines.leading ++ lines.trailing

/-- Reads the lines of a block that stand at its indentation. -/
def readBlockLines? (folded : Bool) (indent : Nat) : Nat → BlockLines → Option BlockLines
  | 0, lines => some lines
  | fuel + 1, lines =>
    if lines.cursor.column ≠ indent || lines.cursor.rest.isEmpty then some lines
    else do
      let blank := lines.cursor.front?.any isBlank
      let line := lines.cursor.takeWhile (!isBreak ·)
      let text := lines.text ++ lines.joint folded blank ++ line
      let (leading, cursor) := (lines.cursor.skip line.length).readBreak
      let empty ← readEmptyLines? indent cursor.rest.length ⟨[], 0, cursor⟩
      readBlockLines? folded indent fuel ⟨text, leading, empty.breaks, blank, empty.cursor⟩

/-- Reads a block from after its `|` or `>`. `inner` is the least column for what belongs to the
collection that the block is in. -/
def readBlock? (folded : Bool) (inner : Nat) (cursor : Cursor) : Option (List Char × Cursor) := do
  let (chomping, increment, cursor) ← readBlockHeader? cursor
  let cursor ← cursor.finishLine?
  let given := if increment = 0 then 0 else (inner - 1) + increment
  let empty ← readEmptyLines? given cursor.rest.length ⟨[], 0, cursor⟩
  let indent := if given = 0 then max 1 (max inner empty.widest) else given
  let start : BlockLines := { trailing := empty.breaks, cursor := empty.cursor }
  let lines ← readBlockLines? folded indent (empty.cursor.rest.length + 1) start
  let ending := match chomping with
    | .strip => []
    | .clip => lines.leading
    | .keep => lines.leading ++ lines.trailing
  return (lines.text ++ ending, lines.cursor)

end TrafficPolicy.Yaml
