import QueryGate.Filter.Grammar
import QueryGate.Registry.Basic
/-!
Canonical filters. A filter from a caller is rebuilt from the root down: properties get their canonical
names, operators must be allowed ones, values that are compared with a date become moments, and the tree
may only be so deep. What comes out is checked against the grammar. The walk goes depth first, in the
order of keys and items, and stops at the first rejection.
-/

namespace QueryGate.Filter

def canonicalDate (name : String) (trail : Trail) (leaf : Atom) : Except Rejection Value :=
  match (Value.atom leaf).toMoment? with
  | .ok moment => .ok (Value.ofMoment? moment)
  | .error cause => reject (.date name cause) trail

def canonicalLeaf (date : Option String) (trail : Trail) (leaf : Atom) : Except Rejection Value :=
  match date with
  | none => .ok (.atom leaf)
  | some name => canonicalDate name trail leaf

/-- A container may have less than `limit` containers around it. -/
def checkDepth (limit : Value) (depth : Nat) (trail : Trail) : Except Rejection Unit :=
  match limit.atMost? depth with
  | none => .error (.foreignLimit limit)
  | some true => reject (.tooDeep limit) trail
  | some false => .ok ()

theorem checkDepth_int (limit : Int) (depth : Nat) (trail : Trail) :
    checkDepth (.int limit) depth trail =
      if limit ≤ depth then reject (.tooDeep (.int limit)) trail else .ok () := by
  by_cases deep : limit ≤ depth <;> simp [checkDepth, Value.atMost?, Atom.atMost?, deep]

/-- The date property whose values lie below an operator. -/
def dateBelow (operator : Operator) (date : Option String) : Option String :=
  if operator.ignoresValue then none else date

/-- What a key of a filter becomes: its canonical key, and the date property for the values below it.
`taken` holds the canonical keys before it in the same map. A renaming is told before anything else about the
new name is looked at, so that name must be one that can be written. -/
def canonicalKey (registry : Registry) (trail : Trail) (date : Option String) (taken : List Atom) :
    Atom → Except Rejection (Atom × Option String)
  | .text name =>
    if isOperatorKey name then
      match Operator.ofKey? name with
      | none => .error (.disallowedOperator name)
      | some operator => .ok (.text name, dateBelow operator date)
    else match registry.resolveFilterable name with
      | none => .error (.unknownProperty name)
      | some property =>
        if property.canonicalName.plain?.isNone then .error (.overlongName property.canonicalName)
        else if taken.any fun key => key.sameKey property.canonicalName then
          reject (.repeated name property.canonicalName) trail
        else .ok (property.canonicalName, if property.isDate then some name else none)
  | key => .error (.foreignKey key)

mutual

def canonicalNode (registry : Registry) (limit : Value) (depth : Nat) (trail : Trail)
    (date : Option String) : Value → Except Rejection Value
  | .atom leaf => canonicalLeaf date trail leaf
  | .list items => do
    checkDepth limit depth trail
    let items ← canonicalItems registry limit (depth + 1) trail date 0 items
    .ok (.list items)
  | .map entries => do
    checkDepth limit depth trail
    let entries ← canonicalEntries registry limit (depth + 1) trail date [] entries
    .ok (.map (Entries.ofSettings entries))

def canonicalItems (registry : Registry) (limit : Value) (depth : Nat) (trail : Trail)
    (date : Option String) (index : Nat) : List Value → Except Rejection (List Value)
  | [] => .ok []
  | item :: items => do
    let first ← canonicalNode registry limit depth (.index index :: trail) date item
    let others ← canonicalItems registry limit depth trail date (index + 1) items
    .ok (first :: others)

def canonicalEntries (registry : Registry) (limit : Value) (depth : Nat) (trail : Trail)
    (date : Option String) (taken : List Atom) :
    List (Atom × Value) → Except Rejection (List (Atom × Value))
  | [] => .ok []
  | (key, item) :: entries => do
    let (canonical, below) ← canonicalKey registry trail date taken key
    let first ← canonicalNode registry limit depth (.key canonical :: trail) below item
    let others ← canonicalEntries registry limit depth trail date (taken ++ [canonical]) entries
    .ok ((canonical, first) :: others)

end

def defaultDepthLimit : Int := 10

/-- The canonical form of a filter for one entity. No filter at all, and one without conditions, match
everything. -/
def parse (registry : Registry) (limit : Value) (filter : Value) : Except Rejection Value :=
  match filter with
  | .null => .ok .empty
  | .map entries => do
    let canonical ← canonicalNode registry limit 0 [] none (.map entries)
    if canonical.isVacant then .ok .empty
    else
      validate canonical
      .ok canonical
  | filter => reject (.noObject filter.typeName) []

end QueryGate.Filter
