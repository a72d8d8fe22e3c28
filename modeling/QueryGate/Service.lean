import QueryGate.Collector.Operations
import QueryGate.Filter.Findings
import QueryGate.Journal.Use
/-!
The service as a whole. A request for a page is decoded, made canonical for its entity and then answered
within a scope. Parsers of filters and collectors ask for a logger when they are made and keep it, so
what they say later goes into the files that their logger has by then. A parser tells about properties
that change their names on the way and about filters that it rejects.
-/

namespace QueryGate.Service

open QueryGate.Collector QueryGate.Filter QueryGate.Journal QueryGate.Query

/-! ## Pages -/

inductive PageError where
  | request (problem : RequestError)
  | rejected (rejection : Rejection)

def readPage (decoder : Json.Decoder) (registry : Registry) (depthLimit : Value)
    (parameters : RequestParameters) : Except PageError PageQuery :=
  match PageQuery.ofParameters decoder parameters with
  | .error problem => .error (.request problem)
  | .ok query =>
    match query.canonical registry depthLimit with
    | .error rejection => .error (.rejected rejection)
    | .ok canonical => .ok canonical

def page (decoder : Json.Decoder) (registry : Registry) (depthLimit : Value) (model : Model)
    (parameters : RequestParameters) (scope : Value) (populate : Option (List Relation)) :
    Except PageError (PageQuery × Run PageResponse) :=
  (readPage decoder registry depthLimit parameters).map fun query =>
    (query, (Collector.forRegistry model registry).find query scope populate)

/-! ## Parsers -/

def renamingLine? (registry : Registry) (change : String × Atom) : Option Line :=
  change.2.plain?.map fun canonical =>
    ⟨.debug, "Renamed " ++ registry.entity ++ "." ++ change.1 ++ " to " ++ canonical⟩

def renamingLines (registry : Registry) (depthLimit : Value) (filter : Value) : List Line :=
  (renamings registry depthLimit filter).filterMap (renamingLine? registry)

/-- The line about a rejection; one without words is not told about. -/
def rejectionLine? (registry : Registry) (rejection : Rejection) : Option Line :=
  rejection.message?.map fun message =>
    ⟨.warning, "Rejected " ++ registry.entity ++ " filter: " ++ message⟩

def parseLines (registry : Registry) (depthLimit : Value) (filter : Value) : List Line :=
  renamingLines registry depthLimit filter ++
    match parse registry depthLimit filter with
    | .ok _ => []
    | .error rejection => (rejectionLine? registry rejection).toList

structure Parser where
  registry : Registry
  depthLimit : Value

namespace Parser

def loggerName : String := "FilterParser"

def component : String := "filters"

def key : String := loggerKey loggerName (some component)

def make (journal : Journal) (registry : Registry) (depthLimit : Value) :
    Journal × Except JournalError Parser :=
  let (journal, outcome) := journal.request loggerName (some component)
  (journal, outcome.map fun _ => ⟨registry, depthLimit⟩)

def parse (parser : Parser) (journal : Journal) (stamps : Nat → Stamp) (filter : Value) :
    Journal × Except Rejection Value :=
  (journal.writeAll key stamps (parseLines parser.registry parser.depthLimit filter),
    Filter.parse parser.registry parser.depthLimit filter)

end Parser

/-! ## Collectors -/

def collectorName : String := "DocumentCollector"

def collectorComponent : String := "executor"

def makeCollector (journal : Journal) (model : Model) (identityField : Value) :
    Journal × Except JournalError Collector :=
  let (journal, outcome) := journal.request collectorName (some collectorComponent)
  (journal, outcome.map fun _ => ⟨model, identityField⟩)

def tellRun {α : Type} (journal : Journal) (stamps : Nat → Stamp) (run : Run α) : Journal :=
  journal.writeAll (loggerKey collectorName (some collectorComponent)) stamps run.lines

/-! ## A service in use -/

/-- One step with the journal of a service: parsers are made and parse filters, and the journal is used besides. -/
inductive Step where
  | journal (step : Journal.Step)
  | makeParser (registry : Registry) (depthLimit : Value)
  | parse (parser : Parser) (stamps : Nat → Stamp) (filter : Value)

def step (journal : Journal) : Step → Journal
  | .journal step => (journal.step step).1
  | .makeParser registry depthLimit => (Parser.make journal registry depthLimit).1
  | .parse parser stamps filter => (parser.parse journal stamps filter).1

def Step.inJournal : Step → List Journal.Step
  | .journal step => [step]
  | .makeParser .. => [.request Parser.loggerName (some Parser.component)]
  | .parse parser stamps filter =>
    (parseLines parser.registry parser.depthLimit filter).mapIdx fun count line =>
      .write Parser.key (stamps count) line

def run (journal : Journal) (steps : List Step) : Journal := steps.foldl step journal

end QueryGate.Service
