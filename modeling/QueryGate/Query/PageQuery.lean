import QueryGate.Query.FilterText
import QueryGate.Query.Sort
import QueryGate.Filter.Canonical
/-!
Queries for one page of documents. A query holds a filter, a sort order, as text or ready for use, and
the number and size of a page, which are whole and at least one. It is built from values or from the raw
parameters of a request, and made canonical for one entity.
-/

namespace QueryGate.Query

open QueryGate.Filter

/-- Why a parameter is refused. An infinite number is refused without words. -/
inductive ParameterError where
  | notInteger (name : String) (value : Value)
  | notPositive (name : String) (value : Value)
  | tooSmall (name : String) (number : Int)
  | scope (typeName : String)
  | infinite

def ParameterError.message? : ParameterError → Option String
  | .notInteger name value =>
    value.literal?.map fun shown => name ++ " must be an integer, got " ++ shown
  | .notPositive name value =>
    value.literal?.map fun shown => name ++ " must be an integer >= 1, got " ++ shown
  | .tooSmall name number =>
    (Number.write? number).map fun shown => name ++ " must be at least 1, got " ++ shown
  | .scope typeName => some ("Scope must be a mapping, got " ++ typeName)
  | .infinite => none

def defaultPageLimit : Int := 10

structure PageQuery where
  filter : Value
  sort : Value
  sorter : Value
  page : Int
  limit : Int
  page_pos : 1 ≤ page
  limit_pos : 1 ≤ limit

def positive (name : String) (value : Value) : Except ParameterError { number : Int // 1 ≤ number } :=
  match value with
  | .atom (.int number) =>
    if large : 1 ≤ number then .ok ⟨number, large⟩ else .error (.notPositive name value)
  | value => .error (.notPositive name value)

def PageQuery.ofValues (filter sort sorter page limit : Value) : Except ParameterError PageQuery := do
  let filter := match filter with
    | .null => .empty
    | filter => filter
  let page ← positive "page" page
  let limit ← positive "limit" limit
  .ok ⟨filter, sort, sorter, page.1, limit.1, page.2, limit.2⟩

def integerOf? : Value → Option Int
  | .atom (.int number) => some number
  | .atom (.bool flag) => some (if flag then 1 else 0)
  | .atom (.float number) => if number.isFinite then some number.truncate else none
  | .atom (.text chars) => Number.readInt? chars.toList
  | .atom (.bytes data) =>
    Number.readInt? (data.map fun byte => if byte < 128 then Char.ofNat byte.toNat else '?')
  | _ => none

def isInfinite : Value → Bool
  | .atom (.float number) => number.isInfinite
  | _ => false

/-- Reads a parameter that is a whole number; nothing and the empty text stand for the default. -/
def integerParameter (name : String) (value default : Value) : Except ParameterError Value :=
  match value with
  | .null | .text "" => .ok default
  | value =>
    if isInfinite value then .error .infinite
    else match integerOf? value with
      | some number => .ok (.int number)
      | none => .error (.notInteger name value)

inductive RequestError where
  | filter (problem : DecodeError)
  | parameter (problem : ParameterError)

def RequestError.ofParameter {α : Type} : Except ParameterError α → Except RequestError α
  | .ok value => .ok value
  | .error problem => .error (.parameter problem)

structure RequestParameters where
  filter : Value
  sort : Value
  page : Value
  limit : Value
  defaultLimit : Value

/-- Builds a query from the parameters of a request. Its filter is decoded but not yet vetted. -/
def PageQuery.ofParameters (decoder : Json.Decoder) (parameters : RequestParameters) :
    Except RequestError PageQuery :=
  match decodeFilter decoder parameters.filter with
  | .error problem => .error (.filter problem)
  | .ok filter => RequestError.ofParameter do
    let page ← integerParameter "page" parameters.page (.int 1)
    let limit ← integerParameter "limit" parameters.limit parameters.defaultLimit
    let sort := if parameters.sort.isVacant then .null else parameters.sort
    PageQuery.ofValues filter sort .null page limit

/-- Makes a query canonical for one entity: the sort text, if there is one, becomes the sort order, and
the filter is rebuilt. The sort order is looked at first. -/
def PageQuery.canonical (registry : Registry) (depthLimit : Value) (query : PageQuery) :
    Except Rejection PageQuery := do
  let sorter ←
    if query.sort.isVacant then .ok query.sorter
    else (parseSort registry query.sort).map fun order => (order.map SortOrder.toValue).getD .null
  let filter ← parse registry depthLimit query.filter
  .ok { query with filter := filter, sorter := sorter }

end QueryGate.Query
