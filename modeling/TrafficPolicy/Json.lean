import TrafficPolicy.Policy

/-!
# Policies as JSON

`Json` is the part of JSON that policies are written in, and `Json.pretty` its text with an
indentation of two. Values of conditions are written bare: a number, a text, or a list of bytes.
-/

namespace TrafficPolicy

/-- A JSON value without fractions. -/
inductive Json where
  | null
  | bool (value : Bool)
  | number (value : Nat)
  | string (value : String)
  | array (items : List Json)
  | object (fields : List (String × Json))
  deriving Repr

namespace Json

/-- A character of a JSON string. -/
def escapeChar (c : Char) : List Char :=
  if c = '"' then ['\\', '"']
  else if c = '\\' then ['\\', '\\']
  else if c = '\n' then ['\\', 'n']
  else if c = '\r' then ['\\', 'r']
  else if c = '\t' then ['\\', 't']
  else if c.toNat = 8 then ['\\', 'b']
  else if c.toNat = 12 then ['\\', 'f']
  else if c.toNat < 0x20 then '\\' :: 'u' :: (Text.hexPadded 4 c.toNat).toList
  else [c]

/-- A text as a JSON string. -/
def quote (text : String) : String :=
  String.ofList ('"' :: text.toList.flatMap escapeChar ++ ['"'])

/-- The start of a line at a depth. -/
def newline (depth : Nat) : String :=
  String.ofList ('\n' :: List.replicate (2 * depth) ' ')

mutual

/-- The text of a value at a depth. -/
def render (depth : Nat) : Json → String
  | null => "null"
  | bool value => if value then "true" else "false"
  | number value => toString value
  | string value => quote value
  | array [] => "[]"
  | array (item :: items) =>
    "[" ++ newline (depth + 1) ++ render (depth + 1) item ++ renderItems (depth + 1) items ++
      newline depth ++ "]"
  | object [] => "\x7b\x7d"
  | object ((name, value) :: fields) =>
    "\x7b" ++ newline (depth + 1) ++ quote name ++ ": " ++ render (depth + 1) value ++
      renderFields (depth + 1) fields ++ newline depth ++ "\x7d"

/-- The text of the items after the first. -/
def renderItems (depth : Nat) : List Json → String
  | [] => ""
  | item :: items => "," ++ newline depth ++ render depth item ++ renderItems depth items

/-- The text of the fields after the first. -/
def renderFields (depth : Nat) : List (String × Json) → String
  | [] => ""
  | (name, value) :: fields =>
    "," ++ newline depth ++ quote name ++ ": " ++ render depth value ++ renderFields depth fields

end

/-- The text of a value. -/
def pretty (json : Json) : String :=
  render 0 json

/-- A list of bytes. -/
def bytes (bytes : List UInt8) : Json :=
  array (bytes.map fun byte => number byte.toNat)

end Json

/-- A value of a condition as JSON. -/
def Value.json : Value → Json
  | u8 value => .number value.toNat
  | u16 value => .number value.toNat
  | u32 value => .number value.toNat
  | u64 value => .number value.toNat
  | address value => .string value.text
  | network value => .string value.text
  | app value => .bytes value.bytes
  | text value => .string value

/-- A condition as JSON. -/
def Condition.json (condition : Condition) : Json :=
  .object [("field", .string condition.field.name), ("op", .string condition.op.name),
    ("value", condition.value.json)]

/-- A filter as JSON. -/
def Filter.json (filter : Filter) : Json :=
  .object [("layer", .string filter.layer.name), ("action", .string filter.action.name),
    ("weight", .number filter.weight.toNat),
    ("conditions", .array (filter.conditions.map Condition.json)), ("name", .string filter.name)]

/-- A compiled directive as an entry of a plan. -/
def CompiledDirective.json (directive : CompiledDirective) : Json :=
  let deny := directive.weight.deny.map fun weight => ("deny_weight", Json.number weight.toNat)
  .object ([("directive", .string directive.kind), ("action", .string directive.action.name),
    ("weight", .number directive.weight.weight.toNat)] ++ deny.toList ++
    [("filters", .array (directive.filters.map Filter.json))])

/-- A policy as a plan: its entries in order. -/
def Policy.json (policy : Policy) : Json :=
  .array (policy.directives.map CompiledDirective.json)

end TrafficPolicy
