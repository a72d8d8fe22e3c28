import QueryGate.Yaml.Node
import QueryGate.Yaml.Scalar
/-!
The value of a YAML document, made of its nodes. Keys have no parts, and of several entries with one key
the last counts. Nodes get their values level by level from the outside in, so of several faults the
outermost is told, and the first of those.
-/

namespace QueryGate.Yaml

/-- What a node stands for, and what is wrong with it: faults of its own, then those of its parts, then
those of their parts, and so on. -/
structure Meaning where
  value : Value
  faults : List (List Fault)

def besides : List (List Fault) → List (List Fault) → List (List Fault)
  | [], later => later
  | earlier, [] => earlier
  | first :: earlier, second :: later => (first ++ second) :: besides earlier later

/-- What the pairs of a mapping come to: entries merged from other maps, entries of its own, and the faults
of both. -/
structure Contents where
  merged : Entries
  own : Entries
  mergeFaults : List (List Fault)
  ownFaults : List (List Fault)

namespace Contents

def empty : Contents := ⟨[], [], [], []⟩

def entries (contents : Contents) : Entries := Entries.ofSettings (contents.merged ++ contents.own)

/-- All faults; merging comes first. -/
def faults (contents : Contents) : List (List Fault) :=
  besides contents.mergeFaults contents.ownFaults

def merge (entries : Entries) (faults : List (List Fault)) (contents : Contents) : Contents :=
  { contents with
    merged := entries ++ contents.merged
    mergeFaults := besides faults contents.mergeFaults }

def add (key item : Meaning) (contents : Contents) : Contents :=
  match key.value with
  | .atom leaf =>
    { contents with
      own := (leaf, item.value) :: contents.own
      ownFaults := besides (besides key.faults item.faults) contents.ownFaults }
  | _ => { contents with ownFaults := besides [[.malformed]] contents.ownFaults }

end Contents

def entriesOf? : Value → Option Entries
  | .map entries => some entries
  | _ => none

def mergeInto (source : Meaning) (contents : Contents) : Contents :=
  match source.value with
  | .map entries => contents.merge entries (source.faults.drop 1)
  | .list items =>
    match items.mapM entriesOf? with
    | some maps => contents.merge maps.reverse.flatten (source.faults.drop 2)
    | none => contents.merge [] [[.malformed]]
  | _ => contents.merge [] [[.malformed]]

def scalarMeaning (text : String) (isPlain : Bool) : Meaning :=
  match scalarValue text isPlain with
  | .ok value => ⟨value, []⟩
  | .error fault => ⟨.null, [[fault]]⟩

namespace Node

def isWord (word : String) : Node → Bool
  | .scalar text isPlain => isPlain && text == word
  | _ => false

mutual

def meaning : Node → Meaning
  | .scalar text isPlain => scalarMeaning text isPlain
  | .sequence items =>
    let parts := meanings items
    ⟨.list (parts.map Meaning.value), [] :: (parts.map Meaning.faults).foldr besides []⟩
  | .mapping pairs =>
    let contents := contentsOf pairs
    ⟨.map contents.entries, [] :: contents.faults⟩

def meanings : List Node → List Meaning
  | [] => []
  | node :: nodes => node.meaning :: meanings nodes

def contentsOf : List (Node × Node) → Contents
  | [] => .empty
  | (key, item) :: pairs =>
    let contents := contentsOf pairs
    if key.isWord mergeWord then mergeInto item.meaning contents
    else if key.isWord defaultWord then contents.add ⟨.text defaultWord, []⟩ item.meaning
    else contents.add key.meaning item.meaning

end

def value (node : Node) : Except Fault Value :=
  let meaning := node.meaning
  match meaning.faults.flatten with
  | [] => .ok meaning.value
  | fault :: _ => .error fault

end Node

def read (nestingLimit : Nat) (text : String) : Except Fault Value := do
  let node ← Node.ofTokens nestingLimit (Token.scan text)
  node.value

def textOfBytes? (data : List UInt8) : Option String := String.fromUTF8? ⟨data.toArray⟩

def readBytes (nestingLimit : Nat) (data : List UInt8) : Except Fault Value :=
  match textOfBytes? data with
  | none => .error .undecodable
  | some text => read nestingLimit text

end QueryGate.Yaml
