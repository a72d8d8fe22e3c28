import QueryGate.Value.Order
/-!
Where a page lies among the others. A page has a next one as long as the documents up to its end are
fewer than all, and a previous one unless it is the first. In the written form the links that do not
exist are left out.
-/

namespace QueryGate.Query

/-- The place of a page; numbers may be any kind of value. -/
structure Pagination (α : Type) where
  total : α
  page : α
  limit : α
  next : Option α
  prev : Option α
deriving DecidableEq

def nextPage (page : Int) (isLast : Bool) : Option Int := if isLast then none else some (page + 1)

def prevPage (page : Int) : Option Int := if page = 1 then none else some (page - 1)

/-- The place of a page of a given size among a given number of documents. -/
def paginate (page limit total : Int) : Pagination Int where
  total := total
  page := page
  limit := limit
  next := nextPage page (total ≤ page * limit)
  prev := prevPage page

namespace Pagination

variable {α β : Type}

def map (f : α → β) (pagination : Pagination α) : Pagination β where
  total := f pagination.total
  page := f pagination.page
  limit := f pagination.limit
  next := pagination.next.map f
  prev := pagination.prev.map f

def linkEntry (name : String) : Option Value → Entries
  | none | some .null => []
  | some value => [(.text name, value)]

def numberEntry (name : String) (value : Value) : Entries := linkEntry name (some value)

def toValue (pagination : Pagination Value) : Value :=
  .map (numberEntry "total" pagination.total ++ numberEntry "page" pagination.page ++
    numberEntry "limit" pagination.limit ++ linkEntry "next" pagination.next ++
    linkEntry "prev" pagination.prev)

end Pagination

def paginateValue? (page limit : Int) (total : Value) : Option (Pagination Value) :=
  (total.atMost? (page * limit)).map fun isLast => {
    total := total
    page := .int page
    limit := .int limit
    next := (nextPage page isLast).map Value.int
    prev := (prevPage page).map Value.int }

theorem paginateValue?_int (page limit total : Int) :
    paginateValue? page limit (.int total) = some ((paginate page limit total).map Value.int) := rfl

structure PageResponse where
  data : List Value
  pagination : Pagination Value

end QueryGate.Query
