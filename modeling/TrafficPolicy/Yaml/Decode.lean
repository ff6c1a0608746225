import TrafficPolicy.Yaml.Node

/-!
# Values in nodes

Reading typed values from the nodes of a document. Every reader takes the root of the document, in
which aliases are looked up, and gives `none` for a node that is not of the type. Where nothing is
written, a mapping or a sequence is empty.
-/

namespace TrafficPolicy.Yaml

namespace Node

/-- Whether nothing is written where the node stands. -/
def isMissing : Node → Bool
  | .scalar _ .plain [] => true
  | _ => false

/-- The text of a scalar, in whatever style. -/
def text? (root node : Node) : Option String :=
  match root.resolve node with
  | .scalar _ _ text => some (String.ofList text)
  | _ => none

/-- The text of a scalar that may be read as something else: it is plain, or a literal block with
the standard tag of the type. -/
def typedText? (typeName : String) (root node : Node) : Option (List Char) :=
  match root.resolve node with
  | .scalar properties style text =>
    if style = .plain || (style = .literal && properties.tag = some (standardTag typeName)) then
      some text
    else none
  | _ => none

/-- A truth value. -/
def bool? (root node : Node) : Option Bool := do
  let text := String.ofList (← typedText? "bool" root node)
  if ["true", "True", "TRUE"].contains text then some true
  else if ["false", "False", "FALSE"].contains text then some false
  else none

/-- The base that a numeral starts with, and the digits after it. -/
def radix? : List Char → Option (Nat × List Char)
  | '0' :: 'x' :: digits => some (16, digits)
  | '0' :: 'o' :: digits => some (8, digits)
  | '0' :: 'b' :: digits => some (2, digits)
  | _ => none

/-- Whether a numeral has zeros in front that do not count. -/
def hasLeadingZero (digits : List Char) : Bool :=
  digits.head? = some '0' && 1 < digits.length

/-- The number that a text writes, in decimals or with the letter of a base. -/
def number? (cs : List Char) : Option Nat :=
  let unsigned := if cs.head? = some '+' then cs.tail else cs
  match radix? unsigned with
  | some (base, digits) => Text.parseNumeral? base digits
  | none => if hasLeadingZero unsigned then none else Text.parseNumeral? 10 unsigned

/-- A natural number below a limit. -/
def nat? (limit : Nat) (root node : Node) : Option Nat := do
  let number ← number? (← typedText? "int" root node)
  if number < limit then some number else none

/-- Whether a text is one that stands for no value. -/
def isNull (text : List Char) : Bool :=
  ["null", "Null", "NULL", "~"].contains (String.ofList text)

/-- Whether a node stands for no value; `none` if it has the tag of no value and is none. -/
def isNone? (root node : Node) : Option Bool :=
  match root.resolve node with
  | .scalar ⟨_, some tag⟩ .plain text =>
    if tag = standardTag "null" then (if isNull text then some true else none) else some false
  | .scalar ⟨_, none⟩ .plain text => some (text.isEmpty || isNull text)
  | _ => some false

/-- A value that may be left open. -/
def option? {α : Type} (read : Node → Node → Option α) (root node : Node) : Option (Option α) := do
  if ← isNone? root node then return none else return some (← read root node)

/-- The values of a sequence. -/
def list? {α : Type} (read : Node → Node → Option α) (root node : Node) : Option (List α) :=
  match root.resolve node with
  | .sequence _ items => items.mapM (read root)
  | found => if found.isMissing then some [] else none

/-- The fields of a mapping, by name: each is one of `names` and appears once. -/
def fields? (names : List String) (root node : Node) : Option (List (String × Node)) :=
  match root.resolve node with
  | .mapping _ entries => do
    let fields ← entries.mapM fun (key, value) => do return (← text? root key, value)
    let keys := fields.map (·.1)
    if keys.all names.contains && decide keys.Nodup then some fields else none
  | found => if found.isMissing then some [] else none

/-- A field, or its default if the mapping does not have it. -/
def field? {α : Type} (fields : List (String × Node)) (name : String) (default : α)
    (read : Node → Option α) : Option α :=
  match fields.lookup name with
  | some node => read node
  | none => some default

end Node

end TrafficPolicy.Yaml
