import TrafficPolicy.Yaml.Token

/-!
# The tokens of a text

`tokens?` cuts a whole text into tokens. A key that is written without an indicator is recognised
only by the colon behind it: until then the place where its tokens would go is kept as a
`PossibleKey`, one per level of nested flow collections. Indentation opens and closes blocks.
-/

namespace TrafficPolicy.Yaml

/-- A place at which a key may have started. -/
structure PossibleKey where
  /-- Whether the text is wrong if no key started there. -/
  required : Bool
  /-- The number of tokens before the place. -/
  position : Nat
  index : Nat
  line : Nat
  column : Nat

/-- A text that is being cut: the tokens so far, and what the next one depends on. -/
structure Scan where
  cursor : Cursor
  tokens : Array Token := #[]
  /-- The columns of the open blocks, the innermost first. -/
  indents : List Nat := []
  /-- The possible key outside of all flow collections. -/
  blockKey : Option PossibleKey := none
  /-- The possible keys of the open flow collections, the innermost first. -/
  flowKeys : List (Option PossibleKey) := []
  /-- Whether a key may start here. -/
  keyAllowed : Bool := true

namespace Scan

/-- Whether the place is inside a flow collection. -/
def inFlow (scan : Scan) : Bool :=
  !scan.flowKeys.isEmpty

/-- The least column for what belongs to the innermost block. -/
def inner (scan : Scan) : Nat :=
  match scan.indents with
  | [] => 0
  | indent :: _ => indent + 1

/-- The scan with one more token. -/
def push (scan : Scan) (token : Token) : Scan :=
  { scan with tokens := scan.tokens.push token }

/-- The scan with one more token, which is `length` characters long. -/
def pushAndSkip (scan : Scan) (token : Token) (length : Nat) : Scan :=
  { scan.push token with cursor := scan.cursor.skip length }

/-! ## Possible keys -/

/-- The possible key of the innermost level. -/
def possibleKey (scan : Scan) : Option PossibleKey :=
  match scan.flowKeys with
  | [] => scan.blockKey
  | key :: _ => key

/-- Changes the possible key of the innermost level. -/
def setPossibleKey (scan : Scan) (key : Option PossibleKey) : Scan :=
  match scan.flowKeys with
  | [] => { scan with blockKey := key }
  | _ :: outer => { scan with flowKeys := key :: outer }

/-- Gives up the possible key of the innermost level, unless it is required. -/
def dropKey? (scan : Scan) : Option Scan :=
  if scan.possibleKey.any (·.required) then none else some (scan.setPossibleKey none)

/-- Notes that a key may start here, if one is allowed. -/
def saveKey? (scan : Scan) : Option Scan :=
  if !scan.keyAllowed then some scan
  else do
    let cursor := scan.cursor
    let required := !scan.inFlow && scan.indents.head? = some cursor.column
    let key : PossibleKey :=
      ⟨required, scan.tokens.size, cursor.index, cursor.line, cursor.column⟩
    return (← scan.dropKey?).setPossibleKey (some key)

/-- A possible key as long as it is on the current line and not too long. A required one must not go
stale. -/
def freshKey? (cursor : Cursor) (key : Option PossibleKey) : Option (Option PossibleKey) :=
  match key with
  | none => some none
  | some key =>
    if key.line < cursor.line || key.index + 1024 < cursor.index then
      if key.required then none else some none
    else some (some key)

/-- Gives up all possible keys that have gone stale. -/
def dropStaleKeys? (scan : Scan) : Option Scan := do
  let blockKey ← freshKey? scan.cursor scan.blockKey
  let flowKeys ← scan.flowKeys.mapM (freshKey? scan.cursor)
  return { scan with blockKey, flowKeys }

/-! ## Blocks -/

/-- Opens a block at a column further in than all open ones; its token goes to a position. -/
def openBlock (scan : Scan) (column position : Nat) (token : Token) : Scan :=
  if scan.inFlow || column < scan.inner then scan
  else
    { scan with
      indents := column :: scan.indents
      tokens := scan.tokens.insertIdxIfInBounds position token }

/-- Closes the blocks further in than the columns that `keep` holds for. -/
def closeBlocks (scan : Scan) (keep : Nat → Bool) : Scan :=
  if scan.inFlow then scan
  else
    let closed := (scan.indents.takeWhile (!keep ·)).length
    { scan with
      indents := scan.indents.drop closed
      tokens := scan.tokens ++ Array.replicate closed .blockEnd }

/-- Closes all blocks, after which no key may start. -/
def closeDocument? (scan : Scan) : Option Scan := do
  let scan ← (scan.closeBlocks fun _ => false).dropKey?
  return { scan with keyAllowed := false }

/-! ## Readers -/

/-- Goes past blanks, comments and line ends to the next token. -/
def skipToToken : Nat → Scan → Scan
  | 0, scan => scan
  | fuel + 1, scan =>
    let cursor := scan.cursor
    let cursor := if cursor.index = 0 && cursor.isAt byteOrderMark then cursor.skip 1 else cursor
    let tabs := scan.inFlow || !scan.keyAllowed
    let cursor := cursor.skipWhile fun c => c = ' ' || (tabs && c = '\t')
    let cursor := if cursor.isAt '#' then cursor.skipWhile (!isBreak ·) else cursor
    if cursor.front?.any isBreak then
      skipToToken fuel
        { scan with cursor := cursor.skipBreak, keyAllowed := scan.keyAllowed || !scan.inFlow }
    else { scan with cursor }

/-- Reads a token that stands alone and may start a key. -/
def readLeaf? (scan : Scan) (read : Cursor → Option (Token × Cursor)) : Option Scan := do
  let scan ← scan.saveKey?
  let (token, cursor) ← read scan.cursor
  return { scan.push token with cursor, keyAllowed := false }

/-- Reads a marker of the start or end of a document. -/
def readMarker? (scan : Scan) (token : Token) : Option Scan := do
  return (← scan.closeDocument?).pushAndSkip token 3

/-- Reads the start of a flow collection. -/
def readFlowStart? (scan : Scan) (token : Token) : Option Scan := do
  let scan ← scan.saveKey?
  return { scan.pushAndSkip token 1 with flowKeys := none :: scan.flowKeys, keyAllowed := true }

/-- Reads the end of a flow collection. -/
def readFlowEnd? (scan : Scan) (token : Token) : Option Scan := do
  let scan ← scan.dropKey?
  return { scan.pushAndSkip token 1 with flowKeys := scan.flowKeys.tail, keyAllowed := false }

/-- Reads the comma between the entries of a flow collection. -/
def readFlowEntry? (scan : Scan) : Option Scan := do
  let scan ← scan.dropKey?
  return { scan.pushAndSkip .flowEntry 1 with keyAllowed := true }

/-- Reads the indicator of an entry of a block sequence. -/
def readBlockEntry? (scan : Scan) : Option Scan := do
  if !scan.inFlow && !scan.keyAllowed then none
  else
    let scan := scan.openBlock scan.cursor.column scan.tokens.size .blockSequenceStart
    let scan ← scan.dropKey?
    return { scan.pushAndSkip .blockEntry 1 with keyAllowed := true }

/-- Reads the indicator of a key. -/
def readKey? (scan : Scan) : Option Scan := do
  if !scan.inFlow && !scan.keyAllowed then none
  else
    let scan := scan.openBlock scan.cursor.column scan.tokens.size .blockMappingStart
    let scan ← scan.dropKey?
    return { scan.pushAndSkip .key 1 with keyAllowed := !scan.inFlow }

/-- Reads the indicator of a value, which makes a possible key a key. -/
def readValue? (scan : Scan) : Option Scan :=
  match scan.possibleKey with
  | some key =>
    let tokens := scan.tokens.insertIdxIfInBounds key.position .key
    let scan := { scan with tokens }.openBlock key.column key.position .blockMappingStart
    some { (scan.setPossibleKey none).pushAndSkip .value 1 with keyAllowed := false }
  | none =>
    if !scan.inFlow && !scan.keyAllowed then none
    else
      let scan := scan.openBlock scan.cursor.column scan.tokens.size .blockMappingStart
      some { scan.pushAndSkip .value 1 with keyAllowed := !scan.inFlow }

/-- Reads a block scalar. -/
def readBlockScalar? (scan : Scan) (style : Style) : Option Scan := do
  let scan ← scan.dropKey?
  let (text, cursor) ← readBlock? (style = .folded) scan.inner (scan.cursor.skip 1)
  return { scan.push (.scalar style text) with cursor, keyAllowed := true }

/-- Reads a quoted scalar. -/
def readQuotedScalar? (scan : Scan) (style : Style) : Option Scan :=
  scan.readLeaf? fun cursor => do
    let (text, after) ←
      readQuoted? (style = .doubleQuoted) (cursor.rest.length + 1) [] (cursor.skip 1)
    return (.scalar style text, after)

/-- Reads a plain scalar. After one that ended with a line end, a key may start. -/
def readPlainScalar? (scan : Scan) : Option Scan := do
  let scan ← scan.saveKey?
  let cursor := scan.cursor
  let plain ← readPlain? scan.inFlow scan.inner (cursor.rest.length + 1) [] {} cursor
  return { scan.push (.scalar .plain plain.text) with
    cursor := plain.cursor, keyAllowed := plain.broken }

/-- Whether `c` never starts a plain scalar, unless what follows says otherwise. -/
def isIndicator (c : Char) : Bool :=
  isFlowIndicator c || "-?:#&*!|>'\"%@".toList.contains c || c = Char.ofNat 0x60

/-- Whether a plain scalar starts with `c`. -/
def startsPlain (scan : Scan) (c : Char) : Bool :=
  (isSolid c && !isIndicator c) ||
    (c = '-' && !(scan.cursor.ahead? 1).any isBlank) ||
    (!scan.inFlow && (c = '?' || c = ':') && !scan.cursor.endsWord 1)

/-- Reads the token that starts with `c`. -/
def readToken? (scan : Scan) (c : Char) : Option Scan :=
  let indicates := scan.cursor.endsWord 1
  if scan.cursor.column = 0 && c = '%' then do
    let scan ← scan.closeDocument?
    let (token, cursor) ← readDirective? scan.cursor
    return { scan.push token with cursor }
  else if scan.cursor.startsMarker '-' then scan.readMarker? .documentStart
  else if scan.cursor.startsMarker '.' then scan.readMarker? .documentEnd
  else if c = '[' then scan.readFlowStart? .flowSequenceStart
  else if c = '\x7b' then scan.readFlowStart? .flowMappingStart
  else if c = ']' then scan.readFlowEnd? .flowSequenceEnd
  else if c = '\x7d' then scan.readFlowEnd? .flowMappingEnd
  else if c = ',' then scan.readFlowEntry?
  else if c = '-' && indicates then scan.readBlockEntry?
  else if c = '?' && (scan.inFlow || indicates) then scan.readKey?
  else if c = ':' && (scan.inFlow || indicates) then scan.readValue?
  else if c = '*' then scan.readLeaf? fun cursor =>
    (readAnchorName? (cursor.skip 1)).map fun (name, after) => (.alias name, after)
  else if c = '&' then scan.readLeaf? fun cursor =>
    (readAnchorName? (cursor.skip 1)).map fun (name, after) => (.anchor name, after)
  else if c = '!' then scan.readLeaf? (readTag? scan.inFlow)
  else if c = '|' && !scan.inFlow then scan.readBlockScalar? .literal
  else if c = '>' && !scan.inFlow then scan.readBlockScalar? .folded
  else if c = '\'' then scan.readQuotedScalar? .singleQuoted
  else if c = '"' then scan.readQuotedScalar? .doubleQuoted
  else if scan.startsPlain c then scan.readPlainScalar?
  else none

/-- Reads tokens up to the end of the text. -/
def readTokens? : Nat → Scan → Option Scan
  | 0, _ => none
  | fuel + 1, scan => do
    let scan ← (skipToToken (scan.cursor.rest.length + 1) scan).dropStaleKeys?
    let column := scan.cursor.column
    match scan.cursor.front? with
    | none => scan.closeDocument?
    | some c => readTokens? fuel (← (scan.closeBlocks (· ≤ column)).readToken? c)

end Scan

/-- The tokens of a text, if it consists of tokens. -/
def tokens? (text : String) : Option (List Token) := do
  let cs := text.toList
  if !cs.all isPrintable then none
  else
    let scan ← Scan.readTokens? (cs.length + 1) { cursor := { rest := cs } }
    return scan.tokens.toList

end TrafficPolicy.Yaml
