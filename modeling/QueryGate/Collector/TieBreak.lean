import QueryGate.Value.Order
import QueryGate.Query.Sort
/-!
Sort orders that leave no ties. The identity field goes to the end of an order unless the order mentions
it already. An order is a map from fields to directions; a text, bytes or a list that mentions the
identity field is read as the pairs of one, and is refused if its parts are no pairs.
-/

namespace QueryGate.Collector

open QueryGate.Query

inductive OrderError where
  | foreign
  | pairLength (index length : Nat)
  | byteRange
deriving DecidableEq, Repr

def OrderError.message : OrderError → String
  | .foreign => ""
  | .pairLength index length =>
    "dictionary update sequence element #" ++ toString index ++ " has length " ++ toString length ++
      "; 2 is required"
  | .byteRange => "byte must be in range(0, 256)"

def occursIn {α : Type} [BEq α] (part : List α) : List α → Bool
  | [] => part.isEmpty
  | first :: rest => part.isPrefixOf (first :: rest) || occursIn part rest

/-- Whether bytes mention an identity field: a number as one of them, bytes as a part. -/
def bytesMention (data : List UInt8) (identity : Atom) : Except OrderError Bool :=
  match identity.whole?, identity with
  | some number, _ =>
    if 0 ≤ number && number < 256 then .ok (data.any fun byte => (byte.toNat : Int) == number)
    else .error .byteRange
  | none, .bytes part => .ok (occursIn part data)
  | none, _ => .error .foreign

def mentions (order identityField : Value) : Except OrderError Bool :=
  match order, identityField with
  | .map keys, .atom identity => .ok (Entries.has keys identity)
  | .list items, identity => .ok (items.any fun item => item.same identity)
  | .text chars, .text part => .ok (occursIn part.toList chars.toList)
  | .atom (.bytes data), .atom identity => bytesMention data identity
  | _, _ => .error .foreign

/-- The parts of a value, if it has any: characters, numbers of bytes, items or keys. -/
def partsOf? : Value → Option (List Value)
  | .text chars => some (chars.toList.map fun c => .text (String.singleton c))
  | .atom (.bytes data) => some (data.map fun byte => .int byte.toNat)
  | .list items => some items
  | .map entries => some ((Entries.keys entries).map Value.atom)
  | .atom _ => none

def readPair (index : Nat) (value : Value) : Except OrderError (Atom × Value) :=
  match partsOf? value with
  | some [.atom key, item] => .ok (key, item)
  | some [_, _] | none => .error .foreign
  | some parts => .error (.pairLength index parts.length)

def readPairs (index : Nat) : List Value → Except OrderError Entries
  | [] => .ok []
  | value :: values => do
    let pair ← readPair index value
    let pairs ← readPairs (index + 1) values
    .ok (pair :: pairs)

def entriesOf (order : Value) : Except OrderError Entries :=
  match order with
  | .map entries => .ok entries
  | order => match partsOf? order with
    | some parts => (readPairs 0 parts).map Entries.ofSettings
    | none => .error .foreign

/-- A sort order with the identity field as the last key, unless it is mentioned. -/
def withTieBreak (identityField order : Value) : Except OrderError Value := do
  if ← mentions order identityField then (entriesOf order).map Value.map
  else match order, identityField with
    | .map keys, .atom identity =>
      .ok (.map (keys ++ [(identity, .text Direction.ascending.name)]))
    | _, _ => .error .foreign

end QueryGate.Collector
