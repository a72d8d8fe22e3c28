import QueryGate.Collector.Operations
import QueryGate.Registry.Declaration
import QueryGate.Text.LetterCase
/-!
What a caller is told about a failure: its kind, its message, and the details that a program can act on.
Kinds form a tree under one root, so that a caller can catch a whole branch of them. Failures that are
no business of the caller, such as a key of a wrong type, have no report.
-/

namespace QueryGate

open QueryGate.Filter QueryGate.Query QueryGate.Collector

inductive FailureKind where
  | general
  | query
  | parameter
  | registry
  | filter
  | unknownProperty
  | disallowedOperator
  | schema
  | capability
deriving DecidableEq, Repr

def FailureKind.parent? : FailureKind → Option FailureKind
  | .general => none
  | .query | .parameter | .registry | .capability => some .general
  | .filter => some .parameter
  | .unknownProperty | .disallowedOperator | .schema => some .filter

def FailureKind.lineage (kind : FailureKind) : List FailureKind :=
  let above (kind : FailureKind) : List FailureKind := kind.parent?.toList
  let first := above kind
  let second := first.flatMap above
  kind :: first ++ second ++ second.flatMap above

structure Report where
  kind : FailureKind
  message : String
  details : List (String × Value)

namespace Report

def plain? (kind : FailureKind) (said : List Value) : Option Report := do
  let message ← match said with
    | [] => some ""
    | [value] => value.plain?
    | values => (values.mapM Value.literal?).map fun shown => "(" ++ ", ".intercalate shown ++ ")"
  some ⟨kind, message, []⟩

def rejection (kind : FailureKind) (reason : String) (details : List (String × Value)) : Report :=
  ⟨kind, rejectionPreamble ++ reason, ("reason", .text reason) :: details⟩

def rejection? (reason : Value) : Option Report :=
  reason.plain?.map fun said => ⟨.filter, rejectionPreamble ++ said, [("reason", reason)]⟩

def unknownProperty? (name : Value) : Option Report :=
  name.plain?.map fun said => rejection .unknownProperty (unknownReason said) [("property", name)]

def disallowedOperator? (key : Value) : Option Report :=
  key.plain?.map fun said => rejection .disallowedOperator (disallowedReason said) [("operator", key)]

/-- A flaw in the shape of a filter, with its place. A place that counts as not given is the root. -/
def schema? (detail place : Value) : Option Report := do
  let shown := if place.isVacant then .text rootLabel else place
  let said ← detail.plain?
  let there ← shown.plain?
  some (rejection .schema (flawReason said there) [("path", shown), ("detail", detail)])

def capitalized? : Value → Option String
  | .text name => some (Text.capitalize name)
  | .atom (.bytes name) => some (Text.quoteBytes (Text.capitalizeBytes name))
  | _ => none

def capability (shown : String) (capability : Value) (model : String) : Report :=
  ⟨.capability, shown ++ " not supported by " ++ model, [("capability", capability)]⟩

def modelName : Value → String
  | .null => "model"
  | value => value.typeName

/-- Why nothing can be reported: too little or too much is said, what should be a name is none, or a number
has too many digits. -/
inductive Misreport where
  | count
  | name
  | overlong
deriving DecidableEq, Repr

def ofCapability (name model : Value) : Except Misreport Report :=
  match capitalized? name with
  | some shown => .ok (capability shown name (modelName model))
  | none => .error .name

def written : Option Report → Except Misreport Report
  | some report => .ok report
  | none => .error .overlong

def ofKind (kind : FailureKind) (said : List Value) : Except Misreport Report :=
  match kind, said with
  | .general, said | .query, said | .parameter, said | .registry, said => written (plain? kind said)
  | .filter, [reason] => written (rejection? reason)
  | .unknownProperty, [name] => written (unknownProperty? name)
  | .disallowedOperator, [key] => written (disallowedOperator? key)
  | .schema, [detail] => written (schema? detail .null)
  | .schema, [detail, place] => written (schema? detail place)
  | .capability, [name] => ofCapability name .null
  | .capability, [name, model] => ofCapability name model
  | _, _ => .error .count

end Report

def Filter.Rejection.report? : Rejection → Option Report
  | .unknownProperty name => Report.unknownProperty? (.text name)
  | .disallowedOperator key => Report.disallowedOperator? (.text key)
  | .flaw problem trail => do
    let detail ← problem.detail?
    let label ← trail.label?
    Report.schema? (.text detail) (.atom label)
  | .foreignKey _ | .foreignSort _ | .foreignLimit _ | .overlongName _ => none

/-- The report of a filter that cannot be decoded. A whole number with too many digits, bytes that spell
no text and values of other types have none. -/
def Query.DecodeError.report? : DecodeError → Option Report
  | .tooManyDigits _ | .undecodable | .foreign _ => none
  | problem => some ⟨.query, problem.message, []⟩

def Query.ParameterError.report? (problem : ParameterError) : Option Report :=
  problem.message?.map fun message => ⟨.parameter, message, []⟩

def Query.RequestError.report? : RequestError → Option Report
  | .filter problem => problem.report?
  | .parameter problem => problem.report?

def RegistryError.report? (problem : RegistryError) : Option Report :=
  problem.message?.map fun message => ⟨.registry, message, []⟩

/-- The report of an operation without an answer. What a model raises, a sort order that is none, a total that
is no number and a number with too many digits are not reported. -/
def Collector.CollectError.report? : CollectError → Option Report
  | .parameter problem => problem.report?
  | .unsupported name model => some (Report.capability (Text.capitalize name) (.text name) model)
  | .order _ | .overlong | .uncountable | .failed _ | .stuck => none

end QueryGate
