import QueryGate.Yaml.Token
/-!
The nodes of a YAML document, put together from its tokens before scalars have a meaning. A text holds one
document at most, and a missing document, key or value is an empty plain scalar. Collections are nested up
to a limit. Tokens are looked at one after another, so the first fault of a text is the one that is told.
-/

namespace QueryGate.Yaml

inductive Node where
  | scalar (text : String) (isPlain : Bool)
  | sequence (items : List Node)
  | mapping (pairs : List (Node × Node))

namespace Node

def omitted : Node := .scalar "" true

def leavesOut (tokens : List Token) (enders : List Token) : Bool :=
  match tokens with
  | [] => true
  | token :: _ => enders.contains token

def faultAt : List Token → Fault
  | .broken fault :: _ => fault
  | _ => .malformed

def opened : Nat → Except Fault Nat
  | 0 => .error .tooDeep
  | depth + 1 => .ok depth

/-- Where a node may stand, which decides how blocks are read. -/
inductive Place where
  | flow
  | block
  | blockValue
deriving DecidableEq

abbrev Reading := Except Fault (Node × List Token)

mutual

/-- Reads one node; `depth` more collections may be opened. A dash where a value of a block mapping stands
starts a sequence that is not indented. -/
def readNode (place : Place) (depth : Nat) : Nat → List Token → Reading
  | 0, tokens => .error (faultAt tokens)
  | fuel + 1, tokens =>
    match tokens with
    | .scalar text isPlain :: rest => .ok (.scalar text isPlain, rest)
    | .flowSequence :: rest => do readFlowSequence true (← opened depth) fuel rest []
    | .flowMapping :: rest => do readFlowMapping true (← opened depth) fuel rest []
    | .blockEntry :: _ =>
      if place = .blockValue then do readFlush (← opened depth) fuel tokens [] else .error .malformed
    | .blockSequence :: rest =>
      if place = .flow then .error .malformed else do readSequence (← opened depth) fuel rest []
    | .blockMapping :: rest =>
      if place = .flow then .error .malformed else do readMapping (← opened depth) fuel rest []
    | _ => .error (faultAt tokens)
termination_by structural fuel => fuel

def readOptional (place : Place) (enders : List Token) (depth : Nat) : Nat → List Token → Reading
  | 0, tokens => .error (faultAt tokens)
  | fuel + 1, tokens =>
    if leavesOut tokens enders then .ok (omitted, tokens) else readNode place depth fuel tokens
termination_by structural fuel => fuel

def readSequence (depth : Nat) : Nat → List Token → List Node → Reading
  | 0, tokens, _ => .error (faultAt tokens)
  | fuel + 1, tokens, known =>
    match tokens with
    | .blockEntry :: rest => do
      let (item, rest) ← readOptional .block [.blockEntry, .blockEnd] depth fuel rest
      readSequence depth fuel rest (item :: known)
    | .blockEnd :: rest => .ok (.sequence known.reverse, rest)
    | _ => .error (faultAt tokens)
termination_by structural fuel => fuel

def readFlush (depth : Nat) : Nat → List Token → List Node → Reading
  | 0, tokens, _ => .error (faultAt tokens)
  | fuel + 1, tokens, known =>
    match tokens with
    | .blockEntry :: rest => do
      let (item, rest) ← readOptional .block [.blockEntry, .key, .value, .blockEnd] depth fuel rest
      readFlush depth fuel rest (item :: known)
    | _ => .ok (.sequence known.reverse, tokens)
termination_by structural fuel => fuel

def readMapping (depth : Nat) : Nat → List Token → List (Node × Node) → Reading
  | 0, tokens, _ => .error (faultAt tokens)
  | fuel + 1, tokens, known =>
    match tokens with
    | .key :: rest => do
      let (key, rest) ← readOptional .blockValue [.key, .value, .blockEnd] depth fuel rest
      let (item, rest) ← readBlockValue depth fuel rest
      readMapping depth fuel rest ((key, item) :: known)
    | .blockEnd :: rest => .ok (.mapping known.reverse, rest)
    | _ => .error (faultAt tokens)
termination_by structural fuel => fuel

def readBlockValue (depth : Nat) : Nat → List Token → Reading
  | 0, tokens => .error (faultAt tokens)
  | fuel + 1, tokens =>
    match tokens with
    | .value :: rest => readOptional .blockValue [.key, .value, .blockEnd] depth fuel rest
    | _ => .ok (omitted, tokens)
termination_by structural fuel => fuel

/-- Reads the entries of a flow sequence; `first` tells that no comma is due. A single pair among them
is a mapping of its own. -/
def readFlowSequence (first : Bool) (depth : Nat) : Nat → List Token → List Node → Reading
  | 0, tokens, _ => .error (faultAt tokens)
  | fuel + 1, tokens, known =>
    match tokens with
    | .flowSequenceEnd :: rest => .ok (.sequence known.reverse, rest)
    | .flowEntry :: rest =>
      if first then .error .malformed
      else match rest with
        | .flowSequenceEnd :: rest => .ok (.sequence known.reverse, rest)
        | .flowEntry :: _ => .error .malformed
        | _ => readFlowSequence true depth fuel rest known
    | .key :: rest =>
      if !first then .error .malformed
      else do
        let inside ← opened depth
        let (key, rest) ← readOptional .flow [.value, .flowEntry, .flowSequenceEnd] inside fuel rest
        let (item, rest) ← readFlowValue [.flowEntry, .flowSequenceEnd] inside fuel rest
        readFlowSequence false depth fuel rest (.mapping [(key, item)] :: known)
    | _ =>
      if !first then .error (faultAt tokens)
      else do
        let (item, rest) ← readNode .flow depth fuel tokens
        readFlowSequence false depth fuel rest (item :: known)
termination_by structural fuel => fuel

/-- Reads the entries of a flow mapping; `first` tells that no comma is due. A node without a key token
is a key without a value. -/
def readFlowMapping (first : Bool) (depth : Nat) :
    Nat → List Token → List (Node × Node) → Reading
  | 0, tokens, _ => .error (faultAt tokens)
  | fuel + 1, tokens, known =>
    match tokens with
    | .flowMappingEnd :: rest => .ok (.mapping known.reverse, rest)
    | .flowEntry :: rest =>
      if first then .error .malformed
      else match rest with
        | .flowMappingEnd :: rest => .ok (.mapping known.reverse, rest)
        | .flowEntry :: _ => .error .malformed
        | _ => readFlowMapping true depth fuel rest known
    | .key :: rest =>
      if !first then .error .malformed
      else do
        let (key, rest) ← readOptional .flow [.value, .flowEntry, .flowMappingEnd] depth fuel rest
        let (item, rest) ← readFlowValue [.flowEntry, .flowMappingEnd] depth fuel rest
        readFlowMapping false depth fuel rest ((key, item) :: known)
    | _ =>
      if !first then .error (faultAt tokens)
      else do
        let (key, rest) ← readNode .flow depth fuel tokens
        readFlowMapping false depth fuel rest ((key, omitted) :: known)
termination_by structural fuel => fuel

def readFlowValue (enders : List Token) (depth : Nat) : Nat → List Token → Reading
  | 0, tokens => .error (faultAt tokens)
  | fuel + 1, tokens =>
    match tokens with
    | .value :: rest => readOptional .flow enders depth fuel rest
    | _ => .ok (omitted, tokens)
termination_by structural fuel => fuel

end

def readContent (nestingLimit fuel : Nat) (marked : Bool) (tokens : List Token) : Reading :=
  if marked && leavesOut tokens [.documentStart, .documentEnd] then .ok (omitted, tokens)
  else readNode .block nestingLimit fuel tokens

def ofTokens (nestingLimit : Nat) (tokens : List Token) : Except Fault Node := do
  let fuel := 4 * tokens.length + 8
  let (node, rest) ← match tokens with
    | [] => .ok (omitted, [])
    | .documentStart :: rest => readContent nestingLimit fuel true rest
    | _ => readContent nestingLimit fuel false tokens
  let behind := rest.dropWhile (· == Token.documentEnd)
  if behind.isEmpty then .ok node else .error (faultAt behind)

end Node

end QueryGate.Yaml
