import QueryGate.Filter.Canonical
/-!
What a walk over a filter meets: the properties that get another name and the violations, in the order
in which they are met. Unlike the rebuilding of a filter this walk does not stop at a violation, so it
says on its own which violation is the first, and which renamings come before it.
-/

namespace QueryGate.Filter

inductive Finding where
  | renamed (name : String) (canonical : Atom)
  | violation (rejection : Rejection)

def Finding.violation? : Finding → Option Rejection
  | .violation rejection => some rejection
  | .renamed _ _ => none

def leafFindings (date : Option String) (trail : Trail) (leaf : Atom) : List Finding :=
  match date with
  | none => []
  | some name =>
    match (Value.atom leaf).toMoment? with
    | .ok _ => []
    | .error cause => [.violation (.flaw (.date name cause) trail)]

def nameFindings (name : String) (property : Property) : List Finding :=
  if property.canonicalName = .text name then [] else [.renamed name property.canonicalName]

def depthViolation? (limit : Value) (depth : Nat) (trail : Trail) : Option Rejection :=
  match limit.atMost? depth with
  | none => some (.foreignLimit limit)
  | some true => some (.flaw (.tooDeep limit) trail)
  | some false => none

mutual

def nodeFindings (registry : Registry) (limit : Value) (depth : Nat) (trail : Trail)
    (date : Option String) : Value → List Finding
  | .atom leaf => leafFindings date trail leaf
  | .list items =>
    match depthViolation? limit depth trail with
    | some rejection => [.violation rejection]
    | none => itemFindings registry limit (depth + 1) trail date 0 items
  | .map entries =>
    match depthViolation? limit depth trail with
    | some rejection => [.violation rejection]
    | none => entryFindings registry limit (depth + 1) trail date [] entries

def itemFindings (registry : Registry) (limit : Value) (depth : Nat) (trail : Trail)
    (date : Option String) (index : Nat) : List Value → List Finding
  | [] => []
  | item :: items =>
    nodeFindings registry limit depth (.index index :: trail) date item ++
      itemFindings registry limit depth trail date (index + 1) items

/-- What is met in the entries of a map; nothing is looked for below a key that is violated. -/
def entryFindings (registry : Registry) (limit : Value) (depth : Nat) (trail : Trail)
    (date : Option String) (taken : List Atom) : List (Atom × Value) → List Finding
  | [] => []
  | (.text name, item) :: entries =>
    if isOperatorKey name then
      match Operator.ofKey? name with
      | none =>
        .violation (.disallowedOperator name) ::
          entryFindings registry limit depth trail date taken entries
      | some operator =>
        nodeFindings registry limit depth (.key (.text name) :: trail) (dateBelow operator date) item ++
          entryFindings registry limit depth trail date (taken ++ [.text name]) entries
    else match registry.resolveFilterable name with
      | none =>
        .violation (.unknownProperty name) ::
          entryFindings registry limit depth trail date taken entries
      | some property =>
        if property.canonicalName.plain?.isNone then
          .violation (.overlongName property.canonicalName) ::
            entryFindings registry limit depth trail date taken entries
        else if taken.any fun key => key.sameKey property.canonicalName then
          nameFindings name property ++
            .violation (.flaw (.repeated name property.canonicalName) trail) ::
              entryFindings registry limit depth trail date taken entries
        else
          nameFindings name property ++
            nodeFindings registry limit depth (.key property.canonicalName :: trail)
              (if property.isDate then some name else none) item ++
            entryFindings registry limit depth trail date (taken ++ [property.canonicalName]) entries
  | (key, _) :: entries =>
    .violation (.foreignKey key) :: entryFindings registry limit depth trail date taken entries

end

def findings (registry : Registry) (limit : Value) (filter : Value) : List Finding :=
  match filter with
  | .map entries => nodeFindings registry limit 0 [] none (.map entries)
  | _ => []

def renamings (registry : Registry) (limit : Value) (filter : Value) : List (String × Atom) :=
  let before := (findings registry limit filter).takeWhile fun finding => finding.violation?.isNone
  before.filterMap fun
    | .renamed name canonical => some (name, canonical)
    | .violation _ => none

end QueryGate.Filter
