import TrafficPolicy.Yaml.TokenList

/-!
# Nodes

`Node` is the tree that the tokens of a document stand for. Anchors are numbered by the names that
came before them, and an alias carries the number that its name has where it stands. `document?`
reads a text that holds exactly one document.
-/

namespace TrafficPolicy.Yaml

/-- A tag, as octets. -/
abbrev Tag := List UInt8

/-- What may be said of a node before its content. -/
structure Properties where
  anchor : Option Nat := none
  tag : Option Tag := none
  deriving DecidableEq, Repr

/-- A tree of scalars, sequences and mappings. -/
inductive Node where
  | scalar (properties : Properties) (style : Style) (text : List Char)
  | sequence (properties : Properties) (items : List Node)
  | mapping (properties : Properties) (entries : List (Node × Node))
  | alias (anchor : Nat)
  deriving Repr

namespace Node

/-- The node that stands where nothing is written. -/
def missing : Node :=
  scalar {} .plain []

/-! ## Anchored nodes -/

mutual

/-- The nodes with an anchor, in the order in which they start. -/
def anchored (anchor : Nat) : Node → List Node
  | node@(.scalar properties ..) => if properties.anchor = some anchor then [node] else []
  | node@(.sequence properties items) =>
    (if properties.anchor = some anchor then [node] else []) ++ anchoredItems anchor items
  | node@(.mapping properties entries) =>
    (if properties.anchor = some anchor then [node] else []) ++ anchoredEntries anchor entries
  | .alias _ => []

/-- The nodes with an anchor among the items of a sequence. -/
def anchoredItems (anchor : Nat) : List Node → List Node
  | [] => []
  | item :: items => anchored anchor item ++ anchoredItems anchor items

/-- The nodes with an anchor among the entries of a mapping. -/
def anchoredEntries (anchor : Nat) : List (Node × Node) → List Node
  | [] => []
  | (key, value) :: entries =>
    anchored anchor key ++ anchored anchor value ++ anchoredEntries anchor entries

end

/-- The node that an alias in the tree `root` stands for: the last one with its anchor. -/
def resolve (root : Node) : Node → Node
  | .alias anchor => ((anchored anchor root).getLast?).getD missing
  | node => node

end Node

/-! ## From tokens to nodes -/

/-- The numbers of the anchors so far, by name. -/
abbrev AnchorTable := List (String × Nat)

/-- The tokens still to be read, and the anchors so far. -/
structure Pending where
  tokens : List Token
  anchors : AnchorTable := []

namespace Pending

/-- The token that comes next. -/
def next? (pending : Pending) : Option Token :=
  pending.tokens.head?

/-- Goes past a token. -/
def skip (pending : Pending) : Pending :=
  { pending with tokens := pending.tokens.tail }

/-- Whether one of some tokens comes next, or none at all. -/
def isAt (pending : Pending) (tokens : List Token) : Bool :=
  pending.next?.all tokens.contains

/-- Numbers an anchor: it gets the number of different names before it, and takes the name over. -/
def define (pending : Pending) (name : String) : Nat × Pending :=
  let number := pending.anchors.length
  (number, { pending with anchors := (name, number) :: pending.anchors.filter (·.1 ≠ name) })

end Pending

/-- The meaning of tag handles, by handle. -/
abbrev TagTable := List (String × Tag)

/-- The meaning of the handles that need not be declared. -/
def standardHandles : TagTable :=
  [("!", "!".toUTF8.toList), ("!!", "tag:yaml.org,2002:".toUTF8.toList)]

/-- A standard tag. -/
def standardTag (name : String) : Tag :=
  ("tag:yaml.org,2002:" ++ name).toUTF8.toList

/-- The tag of a handle and octets. -/
def expandTag? (table : TagTable) (handle : String) (octets : List UInt8) : Option Tag :=
  if handle.isEmpty then some octets
  else (table.lookup handle).map (· ++ octets)

/-- Reads an anchor if there is one. -/
def readAnchor (pending : Pending) : Option Nat × Pending :=
  match pending.next? with
  | some (.anchor name) =>
    let (number, pending) := pending.skip.define name
    (some number, pending)
  | _ => (none, pending)

/-- Reads a tag if there is one. -/
def readTagToken? (table : TagTable) (pending : Pending) : Option (Option Tag × Pending) :=
  match pending.next? with
  | some (.tag handle octets) => do return (some (← expandTag? table handle octets), pending.skip)
  | _ => some (none, pending)

/-- Reads an anchor and a tag, in either order. -/
def readProperties? (table : TagTable) (pending : Pending) : Option (Properties × Pending) := do
  let (before, pending) := readAnchor pending
  let (tag, pending) ← readTagToken? table pending
  let (anchor, pending) :=
    if before.isNone && tag.isSome then readAnchor pending else (before, pending)
  return (⟨anchor, tag⟩, pending)

/-- The tag that a scalar keeps: an exclamation mark alone says nothing. -/
def scalarTag (tag : Option Tag) : Option Tag :=
  tag.filter (· ≠ "!".toUTF8.toList)

mutual

/-- Reads a node. Blocks may start only where `block` holds, and the entries of a sequence without
indentation only where `indentless` holds. -/
def readNode? (table : TagTable) : Nat → Bool → Bool → Pending → Option (Node × Pending)
  | 0, _, _, _ => none
  | fuel + 1, block, indentless, pending =>
    match pending.next? with
    | some (.alias name) => do return (.alias (← pending.anchors.lookup name), pending.skip)
    | _ => do
      let (properties, pending) ← readProperties? table pending
      match pending.next? with
      | some (.scalar style text) =>
        let properties := { properties with tag := scalarTag properties.tag }
        return (.scalar properties style text, pending.skip)
      | some .flowSequenceStart =>
        let (items, pending) ← readFlowItems? table fuel true pending.skip
        return (.sequence properties items, pending)
      | some .flowMappingStart =>
        let (entries, pending) ← readFlowEntries? table fuel true pending.skip
        return (.mapping properties entries, pending)
      | token =>
        if indentless && token = some .blockEntry then
          let (items, pending) ← readItems? table fuel true pending
          return (.sequence properties items, pending)
        else if block && token = some .blockSequenceStart then
          let (items, pending) ← readItems? table fuel false pending.skip
          return (.sequence properties items, pending)
        else if block && token = some .blockMappingStart then
          let (entries, pending) ← readEntries? table fuel pending.skip
          return (.mapping properties entries, pending)
        else if properties ≠ {} then return (.scalar properties .plain [], pending)
        else none

/-- Reads a node, or takes it as missing if one of some tokens comes next. -/
def readOptional? (table : TagTable) :
    Nat → Bool → Bool → List Token → Pending → Option (Node × Pending)
  | 0, _, _, _, _ => none
  | fuel + 1, block, indentless, stop, pending =>
    if pending.isAt stop then some (.missing, pending)
    else readNode? table fuel block indentless pending

/-- Reads the entries of a block sequence. One without indentation ends before any other token. -/
def readItems? (table : TagTable) : Nat → Bool → Pending → Option (List Node × Pending)
  | 0, _, _ => none
  | fuel + 1, indentless, pending =>
    match pending.next? with
    | some .blockEntry => do
      let stop :=
        if indentless then [.blockEntry, .key, .value, .blockEnd] else [.blockEntry, .blockEnd]
      let (item, pending) ← readOptional? table fuel true false stop pending.skip
      let (items, pending) ← readItems? table fuel indentless pending
      return (item :: items, pending)
    | token =>
      if indentless then some ([], pending)
      else if token = some .blockEnd then some ([], pending.skip)
      else none

/-- Reads the entries of a block mapping. -/
def readEntries? (table : TagTable) : Nat → Pending → Option (List (Node × Node) × Pending)
  | 0, _ => none
  | fuel + 1, pending =>
    match pending.next? with
    | some .key => do
      let stop := [.key, .value, .blockEnd]
      let (key, pending) ← readOptional? table fuel true true stop pending.skip
      let (value, pending) ←
        if pending.next? = some .value then readOptional? table fuel true true stop pending.skip
        else some (.missing, pending)
      let (entries, pending) ← readEntries? table fuel pending
      return ((key, value) :: entries, pending)
    | some .blockEnd => some ([], pending.skip)
    | _ => none

/-- Reads the items of a flow sequence. `first` tells that none came before. -/
def readFlowItems? (table : TagTable) : Nat → Bool → Pending → Option (List Node × Pending)
  | 0, _, _ => none
  | fuel + 1, first, pending =>
    if pending.next? = some .flowSequenceEnd then some ([], pending.skip)
    else if !first && pending.next? ≠ some .flowEntry then none
    else
      let pending := if first then pending else pending.skip
      if pending.next? = some .flowSequenceEnd then some ([], pending.skip)
      else do
        let (item, pending) ←
          if pending.next? = some .key then readPair? table fuel pending.skip
          else readNode? table fuel false false pending
        let (items, pending) ← readFlowItems? table fuel false pending
        return (item :: items, pending)

/-- Reads a mapping of one entry that is an item of a flow sequence. -/
def readPair? (table : TagTable) : Nat → Pending → Option (Node × Pending)
  | 0, _ => none
  | fuel + 1, pending => do
    let stop := [.value, .flowEntry, .flowSequenceEnd]
    let (key, pending) ← readOptional? table fuel false false stop pending
    let (value, pending) ←
      if pending.next? = some .value then
        readOptional? table fuel false false [.flowEntry, .flowSequenceEnd] pending.skip
      else some (.missing, pending)
    return (.mapping {} [(key, value)], pending)

/-- Reads the entries of a flow mapping. `first` tells that none came before. -/
def readFlowEntries? (table : TagTable) :
    Nat → Bool → Pending → Option (List (Node × Node) × Pending)
  | 0, _, _ => none
  | fuel + 1, first, pending =>
    if pending.next? = some .flowMappingEnd then some ([], pending.skip)
    else if !first && pending.next? ≠ some .flowEntry then none
    else
      let pending := if first then pending else pending.skip
      if pending.next? = some .flowMappingEnd then some ([], pending.skip)
      else do
        let (entry, pending) ←
          if pending.next? = some .key then do
            let stop := [.value, .flowEntry, .flowMappingEnd]
            let (key, pending) ← readOptional? table fuel false false stop pending.skip
            let (value, pending) ←
              if pending.next? = some .value then
                readOptional? table fuel false false [.flowEntry, .flowMappingEnd] pending.skip
              else some (.missing, pending)
            some ((key, value), pending)
          else do
            let (key, pending) ← readNode? table fuel false false pending
            some ((key, .missing), pending)
        let (entries, pending) ← readFlowEntries? table fuel false pending
        return (entry :: entries, pending)

end

/-! ## Documents -/

/-- Whether a version of YAML is one whose documents can be read. -/
def isKnownVersion (major minor : Nat) : Bool :=
  major = 1 && (minor = 1 || minor = 2)

/-- Reads the directives of a document. Each may be given once. -/
def readDirectives? (versioned : Bool) (table : TagTable) :
    List Token → Option (TagTable × List Token)
  | .versionDirective major minor :: rest =>
    if versioned || !isKnownVersion major minor then none else readDirectives? true table rest
  | .tagDirective handle octets :: rest =>
    if (table.lookup handle).isSome then none
    else readDirectives? versioned (table ++ [(handle, octets)]) rest
  | rest => some (table, rest)

/-- Whether a token cannot be part of the content of a document. -/
def endsContent : Token → Bool
  | .versionDirective .. | .tagDirective .. | .documentStart | .documentEnd => true
  | _ => false

/-- Reads the content of a document that has a start marker. -/
def readContent? (table : TagTable) (tokens : List Token) : Option (Node × List Token) :=
  if tokens.head?.all endsContent then some (.missing, tokens)
  else do
    let (node, pending) ← readNode? table (3 * tokens.length + 3) true false { tokens }
    return (node, pending.tokens)

/-- Reads a document. Directives need a start marker after them. -/
def readDocument? (tokens : List Token) : Option (Node × List Token) := do
  let (declared, rest) ← readDirectives? false [] tokens
  let table := declared ++ standardHandles
  match rest with
  | .documentStart :: rest => readContent? table rest
  | rest =>
    if rest.length < tokens.length || rest.isEmpty then none
    else
      let (node, pending) ← readNode? table (3 * rest.length + 3) true false { tokens := rest }
      return (node, pending.tokens)

/-- The node of a text that holds exactly one document. -/
def document? (text : String) : Option Node := do
  let (node, rest) ← readDocument? (← tokens? text)
  if rest.all (· = .documentEnd) then return node else none

end TrafficPolicy.Yaml
