import TrafficPolicy.Directive

/-!
# Weights

`Assigned.ofProgram` gives every directive of a program its weight, from 0 to 255. A directive
without a weight of its own takes the next one above all weights assigned so far, so later
directives prevail. Directives on name resolution take two weights, the lower for their deny
filters.
-/

namespace TrafficPolicy

/-- The weight of a directive, and that of its deny filters if it has any. -/
structure Assigned where
  weight : UInt8
  deny : Option UInt8 := none
  deriving DecidableEq, Repr

namespace Assigned

/-- A pair of weights, the deny weight being the lower one. -/
def ofPair (deny allow : UInt8) : Except PolicyError Assigned :=
  if deny < allow then .ok ⟨allow, some deny⟩
  else .error (.invalidPolicy (.weightsNotOrdered deny allow))

/-- The weight `cursor`, if there is one, for the directive at `index`. -/
def slot (index cursor : Nat) : Except PolicyError UInt8 :=
  if cursor < 256 then .ok cursor.toUInt8 else .error (.invalidPolicy (.weightsExhausted index))

/-- The weights of the directive at `index` when `cursor` is the least weight above all before. -/
def ofDirective (index cursor : Nat) (directive : Directive) : Except PolicyError Assigned :=
  match directive.weight, directive.kind.isNameResolution with
  | .implicit, false => do return ⟨← slot index cursor, none⟩
  | .implicit, true => do
    let deny ← slot index cursor
    ofPair deny (← slot index (cursor + 1))
  | .fixed weight, false => .ok ⟨weight, none⟩
  | .fixed weight, true =>
    if weight = 0 then .error (.invalidPolicy (.zeroNameWeight index))
    else ofPair (weight - 1) weight
  | .pair deny allow, true => ofPair deny allow
  | .pair _ _, false => .error (.invalidPolicy (.pairMisplaced index directive.kind.name))

/-- The least weight above the earlier ones and the one just assigned. -/
def advance (cursor : Nat) (assigned : Assigned) : Nat :=
  max cursor (assigned.weight.toNat + 1)

/-- The weights of the directives from `index` on. -/
def ofProgramFrom (index cursor : Nat) : List Directive → Except PolicyError (List Assigned)
  | [] => .ok []
  | directive :: rest => do
    let assigned ← ofDirective index cursor directive
    let others ← ofProgramFrom (index + 1) (advance cursor assigned) rest
    return assigned :: others

/-- The weights of the directives of a program, in order. -/
def ofProgram (program : List Directive) : Except PolicyError (List Assigned) :=
  ofProgramFrom 0 0 program

end Assigned

end TrafficPolicy
