import QueryGate.Text.LineBreak
import QueryGate.Yaml.Fault
/-!
Tokens of a YAML document. Blocks are told apart by their indentation, so the scanner keeps a stack of
columns and puts a token at each place where a block starts or ends. Whether a scalar is a key is only
known when the colon behind it is met; until then the scalar is a candidate, and the token for a key is
put in front of it afterwards.

The scanner knows comments, document marks, block and flow collections, and plain and quoted scalars;
anchors, aliases, tags, directives and block scalars are refused like malformed text. Where the scanner
cannot go on, the tokens end with the fault.
-/

namespace QueryGate.Yaml

inductive Token where
  | documentStart
  | documentEnd
  | blockSequence
  | blockMapping
  | blockEnd
  | flowSequence
  | flowSequenceEnd
  | flowMapping
  | flowMappingEnd
  | blockEntry
  | flowEntry
  | key
  | value
  | scalar (text : String) (isPlain : Bool)
  | broken (fault : Fault)
deriving DecidableEq, Repr

def endMark : Char := Char.ofNat 0

def isBreak (c : Char) : Bool :=
  c == '\n' || c == Char.ofNat 0x85 || c == Char.ofNat 0x2028 || c == Char.ofNat 0x2029

/-- Characters that end a scalar wherever they stand: white space, line breaks and the end. -/
def isGap (c : Char) : Bool := c == endMark || c == ' ' || c == '\t' || c == '\r' || isBreak c

def isAllowed (c : Char) : Bool :=
  let code := c.toNat
  code == 9 || code == 10 || code == 13 || (0x20 ≤ code && code ≤ 0x7e) || code == 0x85 ||
    (0xa0 ≤ code && code ≤ 0xfffd) || 0x10000 ≤ code

def indicators : List Char :=
  ['-', '?', ':', ',', '[', ']', '\x7b', '\x7d', '#', '&', '*', '!', '|', '>', Char.ofNat 39, '"', '%',
    '@', Char.ofNat 96]

def flowIndicators : List Char := [',', '[', ']', '\x7b', '\x7d']

/-- A token that becomes a key if a colon follows: its place among the tokens and in the text, and
whether nothing else is possible there. -/
structure Candidate where
  flowLevel : Nat
  position : Nat
  required : Bool
  index : Nat
  line : Nat
  column : Nat

/-- The state of the scanner. Tokens are kept in reverse. -/
structure Scanner where
  rest : List Char
  index : Nat
  line : Nat
  column : Nat
  flowLevel : Nat
  indent : Int
  outerIndents : List Int
  keyAllowed : Bool
  candidates : List Candidate
  tokens : List Token

namespace Scanner

def start (text : List Char) : Scanner := ⟨text, 0, 0, 0, 0, -1, [], true, [], []⟩

def peek (s : Scanner) (ahead : Nat) : Char := s.rest[ahead]?.getD endMark

def step (s : Scanner) : Scanner :=
  match s.rest with
  | [] => s
  | c :: rest =>
    if isBreak c then { s with rest := rest, index := s.index + 1, line := s.line + 1, column := 0 }
    else
      let width := if c == Char.ofNat 0xfeff then 0 else 1
      { s with rest := rest, index := s.index + 1, column := s.column + width }

def advance : Nat → Scanner → Scanner
  | 0, s => s
  | count + 1, s => advance count s.step

def emit (s : Scanner) (token : Token) : Scanner := { s with tokens := token :: s.tokens }

def inFlow (s : Scanner) : Bool := s.flowLevel != 0

def atMark (s : Scanner) (mark : Char) : Bool :=
  s.column == 0 && s.peek 0 == mark && s.peek 1 == mark && s.peek 2 == mark && isGap (s.peek 3)

def skipSpaces (s : Scanner) : Scanner := advance (s.rest.takeWhile (· == ' ')).length s

def skipComment (s : Scanner) : Scanner :=
  if s.peek 0 == '#' then advance (s.rest.takeWhile fun c => !isBreak c).length s else s

/-- Moves to the next token, over spaces, comments and line breaks. A line break outside flow
collections allows a key. -/
def skipToToken : Nat → Scanner → Scanner
  | 0, s => s
  | fuel + 1, s =>
    let s := if s.index == 0 && s.peek 0 == Char.ofNat 0xfeff then s.step else s
    let s := s.skipSpaces.skipComment
    if isBreak (s.peek 0) then
      let s := s.step
      skipToToken fuel (if s.inFlow then s else { s with keyAllowed := true })
    else s

/-! ## Candidates for keys -/

/-- How far behind a candidate its colon may stand. -/
def candidateReach : Nat := 1024

/-- Drops candidates whose line has ended or that are too far behind; where a key was required this is
an error. -/
def dropStale (s : Scanner) : Except Fault Scanner :=
  let isStale (candidate : Candidate) : Bool :=
    candidate.line != s.line || candidateReach < s.index - candidate.index
  if s.candidates.any fun candidate => isStale candidate && candidate.required then
    .error .malformed
  else .ok { s with candidates := s.candidates.filter fun candidate => !isStale candidate }

def candidate? (s : Scanner) : Option Candidate :=
  s.candidates.find? fun candidate => candidate.flowLevel == s.flowLevel

def withoutCandidate (s : Scanner) : Scanner :=
  { s with candidates := s.candidates.filter fun candidate => candidate.flowLevel != s.flowLevel }

def removeCandidate (s : Scanner) : Except Fault Scanner :=
  match s.candidate? with
  | some candidate =>
    if candidate.required then .error .malformed else .ok s.withoutCandidate
  | none => .ok s

def saveCandidate (s : Scanner) : Except Fault Scanner :=
  if s.keyAllowed then do
    let s ← s.removeCandidate
    let candidate : Candidate :=
      { flowLevel := s.flowLevel
        position := s.tokens.length
        required := !s.inFlow && s.indent == s.column
        index := s.index
        line := s.line
        column := s.column }
    .ok { s with candidates := candidate :: s.candidates }
  else .ok s

def insertTokens (s : Scanner) (position : Nat) (tokens : List Token) : Scanner :=
  let behind := s.tokens.length - position
  { s with tokens := s.tokens.take behind ++ tokens.reverse ++ s.tokens.drop behind }

/-! ## Indentation -/

def unwindTo (column : Int) : Nat → Scanner → Scanner
  | 0, s => s
  | fuel + 1, s =>
    if column < s.indent then
      let outer := s.outerIndents.headD (-1)
      unwindTo column fuel
        { s with indent := outer, outerIndents := s.outerIndents.drop 1
                 tokens := .blockEnd :: s.tokens }
    else s

/-- Ends the blocks that are indented beyond a column; inside flow collections there are none. -/
def unwind (s : Scanner) (column : Int) : Scanner :=
  if s.inFlow then s else unwindTo column (s.outerIndents.length + 1) s

def opensBlock (s : Scanner) (column : Nat) : Bool := s.indent < column

def openBlock (s : Scanner) (column : Nat) : Scanner :=
  { s with indent := column, outerIndents := s.indent :: s.outerIndents }

/-! ## Plain scalars -/

def plainLength (inFlow : Bool) : List Char → Nat
  | [] => 0
  | c :: rest =>
    let next := rest.headD endMark
    let ends := isGap c
      || (c == ':' && (isGap next || (inFlow && flowIndicators.contains next)))
      || (inFlow && (c == '?' || flowIndicators.contains c))
    if ends then 0 else plainLength inFlow rest + 1

/-- Collects the line breaks and spaces behind a first line break. Document marks end the collection,
and then nothing is left of it. -/
def collectBreaks : Nat → Scanner → List Char → Scanner × Option (List Char)
  | 0, s, breaks => (s, some breaks)
  | fuel + 1, s, breaks =>
    let s := s.skipSpaces
    if isBreak (s.peek 0) then
      let c := if s.peek 0 == Char.ofNat 0x85 then '\n' else s.peek 0
      let s := s.step
      if s.atMark '-' || s.atMark '.' then (s, none)
      else collectBreaks fuel s (breaks ++ [c])
    else (s, some breaks)

/-- What a line break inside a scalar leaves: other breaks stay, a single one becomes a space. -/
def foldBreaks (first : Char) (others : List Char) : List Char :=
  if first != '\n' then first :: others
  else if others.isEmpty then [' ']
  else others

def plainGap (s : Scanner) : Scanner × List Char :=
  let spaces := s.rest.takeWhile (· == ' ')
  let s := advance spaces.length s
  if isBreak (s.peek 0) then
    let first := if s.peek 0 == Char.ofNat 0x85 then '\n' else s.peek 0
    let s := { s.step with keyAllowed := true }
    if s.atMark '-' || s.atMark '.' then (s, [])
    else match collectBreaks (s.rest.length + 1) s [] with
      | (s, none) => (s, [])
      | (s, some others) => (s, foldBreaks first others)
  else (s, spaces)

/-- Reads the pieces of a plain scalar; `gap` stands between the pieces read so far and the next. -/
def plainPieces (indent : Int) : Nat → Scanner → List Char → List Char → Scanner × List Char
  | 0, s, read, _ => (s, read)
  | fuel + 1, s, read, gap =>
    let length := if s.peek 0 == '#' then 0 else plainLength s.inFlow s.rest
    if length = 0 then (s, read)
    else
      let read := read ++ gap ++ s.rest.take length
      let s := { advance length s with keyAllowed := false }
      let (s, gap) := s.plainGap
      if gap.isEmpty || s.peek 0 == '#' || (!s.inFlow && s.column < indent) then (s, read)
      else plainPieces indent fuel s read gap

def scanPlain (s : Scanner) : Scanner :=
  let (s, read) := plainPieces (s.indent + 1) (s.rest.length + 1) s [] []
  s.emit (.scalar (String.ofList read) true)

/-! ## Quoted scalars -/

def escapes : List (Char × Nat) :=
  [('0', 0), ('a', 7), ('b', 8), ('t', 9), ('\t', 9), ('n', 10), ('v', 11), ('f', 12), ('r', 13),
    ('e', 27), (' ', 32), ('"', 34), ('\\', 92), ('/', 47), ('N', 0x85), ('_', 0xa0), ('L', 0x2028),
    ('P', 0x2029)]

def codeLengths : List (Char × Nat) := [('x', 2), ('u', 4), ('U', 8)]

def hexDigit? (c : Char) : Option Nat :=
  if '0' ≤ c && c ≤ '9' then some (c.toNat - 48)
  else if 'a' ≤ c && c ≤ 'f' then some (c.toNat - 87)
  else if 'A' ≤ c && c ≤ 'F' then some (c.toNat - 55)
  else none

def hexNumber? (digits : List Char) : Option Nat :=
  digits.foldl (fun number c => do
    let number ← number
    let digit ← hexDigit? c
    some (number * 16 + digit)) (some 0)

/-- Moves over blank characters and line breaks behind a line break in a quoted scalar and tells the
line breaks. A document mark at the start of a line is an error. -/
def quotedBreaks : Nat → Scanner → List Char → Except Fault (Scanner × List Char)
  | 0, s, breaks => .ok (s, breaks)
  | fuel + 1, s, breaks =>
    if s.atMark '-' || s.atMark '.' then .error .malformed
    else
      let s := advance (s.rest.takeWhile fun c => c == ' ' || c == '\t').length s
      if isBreak (s.peek 0) then
        let c := if s.peek 0 == Char.ofNat 0x85 then '\n' else s.peek 0
        quotedBreaks fuel s.step (breaks ++ [c])
      else .ok (s, breaks)

/-- Codes from here on are no machine's numbers. -/
def codeReach : Nat := 0x80000000

def characterOf (code : Nat) : Except Fault Char :=
  if codeReach ≤ code then .error .hugeCode
  else if 0x110000 ≤ code then .error .noCharacter
  else .ok (Char.ofNat code)

def quotedEscape (s : Scanner) : Except Fault (Scanner × List Char) :=
  let c := s.peek 0
  match escapes.find? fun entry => entry.1 == c, codeLengths.find? fun entry => entry.1 == c with
  | some (_, code), _ => .ok (s.step, [Char.ofNat code])
  | none, some (_, length) =>
    let digits := (s.rest.drop 1).take length
    match hexNumber? digits with
    | some code =>
      if digits.length = length then
        (characterOf code).map fun c => (advance (length + 1) s, [c])
      else .error .malformed
    | none => .error .malformed
  | none, none =>
    if isBreak c then
      quotedBreaks (s.rest.length + 1) s.step []
    else .error .malformed

def quotedGap (s : Scanner) : Except Fault (Scanner × List Char) :=
  let blanks := s.rest.takeWhile fun c => c == ' ' || c == '\t'
  let s := advance blanks.length s
  if s.rest.isEmpty then .error .malformed
  else if isBreak (s.peek 0) then
    let first := if s.peek 0 == Char.ofNat 0x85 then '\n' else s.peek 0
    (quotedBreaks (s.rest.length + 1) s.step []).map fun (s, others) => (s, foldBreaks first others)
  else .ok (s, blanks)

/-- Reads a quoted scalar up to its closing mark. In single quotes a doubled mark stands for itself; in
double quotes a backslash starts an escape. -/
def quotedPieces (mark : Char) : Nat → Scanner → List Char → Except Fault (Scanner × List Char)
  | 0, _, _ => .error .malformed
  | fuel + 1, s, read =>
    let c := s.peek 0
    let isDouble := mark == '"'
    if s.rest.isEmpty then .error .malformed
    else if c == mark then
      if !isDouble && s.peek 1 == mark then quotedPieces mark fuel (advance 2 s) (read ++ [mark])
      else .ok (s.step, read)
    else if isDouble && c == '\\' then do
      let (s, piece) ← s.step.quotedEscape
      quotedPieces mark fuel s (read ++ piece)
    else if isGap c then do
      let (s, piece) ← s.quotedGap
      quotedPieces mark fuel s (read ++ piece)
    else quotedPieces mark fuel s.step (read ++ [c])

def scanQuoted (s : Scanner) : Except Fault Scanner := do
  let (s, read) ← quotedPieces (s.peek 0) (s.rest.length + 1) s.step []
  .ok (s.emit (.scalar (String.ofList read) false))

/-! ## Tokens -/

def scanMark (s : Scanner) (token : Token) : Except Fault Scanner := do
  let s ← (s.unwind (-1)).removeCandidate
  .ok ((advance 3 { s with keyAllowed := false }).emit token)

def scanFlowStart (s : Scanner) (token : Token) : Except Fault Scanner := do
  let s ← s.saveCandidate
  .ok ({ s with flowLevel := s.flowLevel + 1, keyAllowed := true }.step.emit token)

def scanFlowEnd (s : Scanner) (token : Token) : Except Fault Scanner := do
  let s ← s.removeCandidate
  if s.inFlow then
    .ok ({ s with flowLevel := s.flowLevel - 1, keyAllowed := false }.step.emit token)
  else .error .malformed

def scanFlowEntry (s : Scanner) : Except Fault Scanner := do
  let s ← { s with keyAllowed := true }.removeCandidate
  .ok (s.step.emit .flowEntry)

def openIfDeeper (s : Scanner) (token : Token) : Scanner :=
  if !s.inFlow && s.opensBlock s.column then (s.openBlock s.column).emit token else s

def scanBlockEntry (s : Scanner) : Except Fault Scanner :=
  if !s.inFlow && !s.keyAllowed then .error .malformed
  else do
    let s ← { s.openIfDeeper .blockSequence with keyAllowed := true }.removeCandidate
    .ok (s.step.emit .blockEntry)

def scanKey (s : Scanner) : Except Fault Scanner :=
  if !s.inFlow && !s.keyAllowed then .error .malformed
  else do
    let s ← { s.openIfDeeper .blockMapping with keyAllowed := !s.inFlow }.removeCandidate
    .ok (s.step.emit .key)

def scanValue (s : Scanner) : Except Fault Scanner :=
  match s.candidate? with
  | some candidate =>
    let s := s.withoutCandidate
    let opens := !s.inFlow && s.opensBlock candidate.column
    let s := if opens then s.openBlock candidate.column else s
    let tokens := if opens then [Token.blockMapping, Token.key] else [Token.key]
    let s := { s.insertTokens candidate.position tokens with keyAllowed := false }
    .ok (s.step.emit .value)
  | none =>
    if !s.inFlow && !s.keyAllowed then .error .malformed
    else do
      let s ← { s.openIfDeeper .blockMapping with keyAllowed := !s.inFlow }.removeCandidate
      .ok (s.step.emit .value)

def startsPlain (s : Scanner) : Bool :=
  let c := s.peek 0
  (!isGap c && !indicators.contains c) ||
    (!isGap (s.peek 1) && (c == '-' || (!s.inFlow && (c == '?' || c == ':'))))

def scanToken (s : Scanner) : Except Fault Scanner :=
  let c := s.peek 0
  if s.atMark '-' then s.scanMark .documentStart
  else if s.atMark '.' then s.scanMark .documentEnd
  else if c == '[' then s.scanFlowStart .flowSequence
  else if c == '\x7b' then s.scanFlowStart .flowMapping
  else if c == ']' then s.scanFlowEnd .flowSequenceEnd
  else if c == '\x7d' then s.scanFlowEnd .flowMappingEnd
  else if c == ',' then s.scanFlowEntry
  else if c == '-' && isGap (s.peek 1) then s.scanBlockEntry
  else if c == '?' && (s.inFlow || isGap (s.peek 1)) then s.scanKey
  else if c == ':' && (s.inFlow || isGap (s.peek 1)) then s.scanValue
  else if c == Char.ofNat 39 || c == '"' then do
    let s ← s.saveCandidate
    { s with keyAllowed := false }.scanQuoted
  else if s.startsPlain then do
    let s ← s.saveCandidate
    .ok ({ s with keyAllowed := false }.scanPlain)
  else .error .malformed

/-- The tokens so far, up to a fault. What stands behind a candidate is not told, as the candidate might
still have become a key. -/
def brokenBy (s : Scanner) (fault : Fault) : List Token :=
  let tokens := s.tokens.reverse
  let told := s.candidates.foldl (fun told candidate => min told candidate.position) tokens.length
  tokens.take told ++ [.broken fault]

def scanNext (s : Scanner) : Except Fault (Scanner × Bool) := do
  let s ← (skipToToken (s.rest.length + 1) s).dropStale
  let s := s.unwind s.column
  if s.rest.isEmpty then .ok (← (s.unwind (-1)).removeCandidate, false) else .ok (← s.scanToken, true)

def scanAll : Nat → Scanner → List Token
  | 0, s => s.brokenBy .malformed
  | fuel + 1, s =>
    match s.scanNext with
    | .ok (next, true) => scanAll fuel next
    | .ok (next, false) => next.tokens.reverse
    | .error fault => s.brokenBy fault

end Scanner

def Token.scan (text : String) : List Token :=
  let chars := Text.unifyBreaks text.toList
  if chars.all isAllowed then (Scanner.start chars).scanAll (chars.length + 2)
  else [.broken .malformed]

end QueryGate.Yaml
