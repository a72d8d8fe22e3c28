import QueryGate.Proofs.Filter.Rebuilding
import QueryGate.Proofs.Query.SortKeys
import QueryGate.Query.PageQuery
/-!
From the parameters of a request to a query. A query that was built holds the object that its filter
decodes to and the numbers that its parameters spell; made canonical it holds the rebuilt filter and the
order that its sort text describes.
-/

namespace QueryGate.Query

open QueryGate.Filter

theorem objectOf_ok {chars : List Char} {read : Except Json.ReadError Value} {decoded : Value}
    (object : objectOf chars read = .ok decoded) : ∃ entries, decoded = .map entries := by
  unfold objectOf at object
  split at object
  next => cases object
  next entries => exact ⟨entries, (Except.ok.inj object).symm⟩
  next => cases object

private theorem decodeFilter_ok {decoder : Json.Decoder} {raw decoded : Value}
    (decodes : decodeFilter decoder raw = .ok decoded) :
    ∃ entries, decoded = .map entries := by
  unfold decodeFilter at decodes
  split at decodes
  next => exact ⟨[], (Except.ok.inj decodes).symm⟩
  next chars =>
    rw [decodeText] at decodes
    split at decodes
    next => exact ⟨[], (Except.ok.inj decodes).symm⟩
    next => exact objectOf_ok decodes
  next data =>
    rw [decodeBytes] at decodes
    split at decodes
    next => cases decodes
    next => exact objectOf_ok decodes
  next => cases decodes

theorem positive_ok {name : String} {value : Value} {number : { number : Int // 1 ≤ number }}
    (accepted : positive name value = .ok number) : value = .int number.1 := by
  unfold positive at accepted
  split at accepted
  next =>
    split at accepted
    next => rw [← Except.ok.inj accepted]
    next => cases accepted
  next => cases accepted

private theorem ofValues_ok {entries : Entries} {sort sorter page limit : Value} {query : PageQuery}
    (built : PageQuery.ofValues (.map entries) sort sorter page limit = .ok query) :
    query.filter = .map entries ∧ query.sort = sort ∧ query.sorter = sorter ∧
      page = .int query.page ∧ limit = .int query.limit := by
  unfold PageQuery.ofValues at built
  obtain ⟨number, placed, rest⟩ := Outcome.bind_eq_ok.mp built
  obtain ⟨size, sized, same⟩ := Outcome.bind_eq_ok.mp rest
  rw [← Except.ok.inj same]
  exact ⟨rfl, rfl, rfl, positive_ok placed, positive_ok sized⟩

structure ReadFrom (decoder : Json.Decoder) (parameters : RequestParameters) (query : PageQuery) :
    Prop where
  filter : decodeFilter decoder parameters.filter = .ok query.filter
  sort : query.sort = if parameters.sort.isVacant then .null else parameters.sort
  sorter : query.sorter = .null
  page : integerParameter "page" parameters.page (.int 1) = .ok (.int query.page)
  limit : integerParameter "limit" parameters.limit parameters.defaultLimit = .ok (.int query.limit)

theorem ofParameters_ok {decoder : Json.Decoder} {parameters : RequestParameters} {query : PageQuery}
    (built : PageQuery.ofParameters decoder parameters = .ok query) :
    ReadFrom decoder parameters query := by
  rw [PageQuery.ofParameters] at built
  split at built
  next => cases built
  next decoded decodes =>
    obtain ⟨entries, rfl⟩ := decodeFilter_ok decodes
    unfold RequestError.ofParameter at built
    split at built
    next read accepted =>
      obtain ⟨page, paged, rest⟩ := Outcome.bind_eq_ok.mp accepted
      obtain ⟨limit, limited, rest⟩ := Outcome.bind_eq_ok.mp rest
      obtain ⟨filter, sort, sorter, number, size⟩ := ofValues_ok rest
      rw [← Except.ok.inj built]
      exact ⟨decodes.trans (congrArg Except.ok filter.symm), sort, sorter,
        paged.trans (congrArg Except.ok number), limited.trans (congrArg Except.ok size)⟩
    next => cases built

/-- What a query is once it is canonical. -/
structure CanonicalOf (registry : Registry) (depthLimit : Value) (query canonical : PageQuery) :
    Prop where
  filter : parse registry depthLimit query.filter = .ok canonical.filter
  sorter : if query.sort.isVacant then canonical.sorter = query.sorter
    else ∃ order, parseSort registry query.sort = .ok order ∧
      canonical.sorter = (order.map SortOrder.toValue).getD .null
  page : canonical.page = query.page
  limit : canonical.limit = query.limit

theorem canonical_ok {registry : Registry} {depthLimit : Value} {query canonical : PageQuery}
    (vetted : query.canonical registry depthLimit = .ok canonical) :
    CanonicalOf registry depthLimit query canonical := by
  rw [PageQuery.canonical] at vetted
  split at vetted
  next vacant =>
    obtain ⟨sorter, sorted, rest⟩ := Outcome.bind_eq_ok.mp vetted
    obtain ⟨filter, parsed, same⟩ := Outcome.bind_eq_ok.mp rest
    rw [← Except.ok.inj same]
    exact ⟨parsed, by rw [if_pos vacant]; exact (Except.ok.inj sorted).symm, rfl, rfl⟩
  next stated =>
    obtain ⟨sorter, sorted, rest⟩ := Outcome.bind_eq_ok.mp vetted
    obtain ⟨filter, parsed, same⟩ := Outcome.bind_eq_ok.mp rest
    obtain ⟨order, read, form⟩ := Outcome.map_eq_ok.mp sorted
    rw [← Except.ok.inj same]
    exact ⟨parsed, by rw [if_neg stated]; exact ⟨order, read, form.symm⟩, rfl, rfl⟩

end QueryGate.Query
