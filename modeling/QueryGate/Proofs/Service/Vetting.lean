import QueryGate.Proofs.Collector.PageCalls
import QueryGate.Proofs.Json.Reading
import QueryGate.Proofs.Query.Requests
import QueryGate.Service
/-!
Vetting of requests for a page. A request is refused before any call, or its model gets one find request
and one count request with one and the same vetted filter, and steps that come from vetted parameters. A vetted
request with a number of too many digits in it never gets to its model either.
-/

namespace QueryGate.Service

open QueryGate.Collector QueryGate.Filter QueryGate.Query

def callsOf : Except PageError (PageQuery × Run PageResponse) → List Call
  | .error _ => []
  | .ok (_, run) => run.calls

inductive Refused : Except PageError (PageQuery × Run PageResponse) → Prop
  | unread (problem : PageError) : Refused (.error problem)
  | unconfined (query : PageQuery) (problem : ParameterError) :
      Refused (.ok (query, .refused (.parameter problem)))

theorem callsOf_of_refused {answer : Except PageError (PageQuery × Run PageResponse)}
    (refused : Refused answer) : callsOf answer = [] := by
  cases refused <;> rfl

/-- What a request was read as: a filter that the grammar admits, a page of at least one document and
an order of vetted fields. -/
structure PageRead (decoder : Json.Decoder) (registry : Registry) (depthLimit : Int)
    (parameters : RequestParameters) (query : PageQuery) (order : SortOrder) : Prop where
  parsed : ∃ decoded, decodeFilter decoder parameters.filter = .ok decoded ∧
    parse registry (.int depthLimit) decoded = .ok query.filter
  valid : validate query.filter = .ok ()
  page : integerParameter "page" parameters.page (.int 1) = .ok (.int query.page)
  limit : integerParameter "limit" parameters.limit parameters.defaultLimit = .ok (.int query.limit)
  sorted : parseSort registry parameters.sort = .ok (if order.isEmpty then none else some order)
  sorter : query.sorter = sorterOf order
  keys : ∀ key ∈ Entries.keys order, SortKey registry key

variable {decoder : Json.Decoder} {registry : Registry} {depthLimit : Int}
  {parameters : RequestParameters}

private theorem readPage_ok {query : PageQuery}
    (read : readPage decoder registry (.int depthLimit) parameters = .ok query) :
    ∃ order, PageRead decoder registry depthLimit parameters query order := by
  rw [readPage] at read
  split at read
  next => cases read
  next raw built =>
    split at read
    next => cases read
    next canonical vetted =>
      rw [← Except.ok.inj read]
      have source := ofParameters_ok built
      have result := canonical_ok vetted
      have parsed : ∃ decoded, decodeFilter decoder parameters.filter = .ok decoded ∧
          parse registry (.int depthLimit) decoded = .ok canonical.filter :=
        ⟨raw.filter, source.filter, result.filter⟩
      have valid := parse_valid result.filter
      have page := source.page
      have limit := source.limit
      rw [← result.page] at page
      rw [← result.limit] at limit
      have sorter := result.sorter
      rw [source.sort, source.sorter] at sorter
      by_cases absent : parameters.sort.isVacant = true
      · rw [if_pos absent, if_pos (by rfl)] at sorter
        have unsorted : parseSort registry parameters.sort = .ok none := by
          unfold parseSort
          rw [if_pos absent]
        exact ⟨[], parsed, valid, page, limit, unsorted, sorter, by simp [Entries.keys]⟩
      · rw [if_neg absent, if_neg absent] at sorter
        obtain ⟨found, described, same⟩ := sorter
        obtain ⟨order, rfl, keys⟩ := parseSort_ok described
        refine ⟨order, parsed, valid, page, limit, described, same.trans ?_, keys⟩
        rw [sorterOf]
        cases order.isEmpty <;> rfl

/-- A request is refused before any call, or answered from one find call and one count call with the
same vetted filter within the scope, a place and a size that are in range, and an order of vetted fields
if any is asked for. Only a vetted request with a number of too many digits in it gets no answer: it ends before
any call too, but not in a way that is reported. -/
theorem page_refused_or_vetted (decoder : Json.Decoder) (registry : Registry) (identity : String)
    (declared : registry.identityField = .text identity) (depthLimit : Int) (model : Model)
    (parameters : RequestParameters) (scope : Value) (populate : Option (List Relation)) :
    let answer := page decoder registry (.int depthLimit) model parameters scope populate
    (Refused answer ∧ callsOf answer = []) ∨
      ∃ query run order, answer = .ok (query, run) ∧
        PageRead decoder registry depthLimit parameters query order ∧ IsScope scope ∧
        (PageOverlong query scope → run = .refused .overlong ∧ callsOf answer = []) ∧
        (¬PageOverlong query scope →
          Asked identity query order (confine query.filter scope) (callsOf answer) ∧
          0 ≤ (query.page - 1) * query.limit ∧ 1 ≤ query.limit ∧
          ∀ key ∈ Entries.keys (tieBroken identity order), SortKey registry key) := by
  intro answer
  have opened : answer = (readPage decoder registry (.int depthLimit) parameters).map fun query =>
      (query, (Collector.forRegistry model registry).find query scope populate) := rfl
  cases read : readPage decoder registry (.int depthLimit) parameters with
  | error problem =>
    rw [opened, read]
    have refused := Refused.unread problem
    exact .inl ⟨refused, callsOf_of_refused refused⟩
  | ok query =>
    rw [opened, read, Except.map]
    by_cases valid : IsScope scope
    · obtain ⟨order, known⟩ := readPage_ok read
      obtain ⟨decoded, -, parsed⟩ := known.parsed
      have within := scopedFilter_of_isScope (parse_ne_null parsed) valid
      have start : 0 ≤ (query.page - 1) * query.limit :=
        Int.mul_nonneg (by have := query.page_pos; omega) (by have := query.limit_pos; omega)
      refine .inr ⟨query, _, order, rfl, known, valid, fun overlong => ?_, fun short => ?_⟩
      · have stopped : (Collector.forRegistry model registry).find query scope populate = .refused .overlong :=
          find_of_overlong within overlong
        exact ⟨stopped, congrArg Run.calls stopped⟩
      refine ⟨find_asked declared known.sorter within short, start, query.limit_pos, fun key present => ?_⟩
      rcases mem_keys_tieBroken present with rfl | named
      · exact .inl declared.symm
      · exact known.keys key named
    · obtain ⟨problem, foreign⟩ := scopedFilter_of_not_isScope query.filter valid
      have stopped : (Collector.forRegistry model registry).find query scope populate =
          .refused (.parameter problem) := by
        rw [Collector.find, withinScope, foreign]
      rw [stopped]
      have refused := Refused.unconfined query problem
      exact .inl ⟨refused, callsOf_of_refused refused⟩

/-- The text of a filter with one condition. -/
private theorem decodeFilter_condition :
    decodeFilter .ofHundred (.text "\x7b\"typeName\":true\x7d") = .ok (.map [(.text "typeName", .bool true)]) := by
  have name : Json.readString Json.Decoder.ofHundred.standIn 1 2 "typeName\":true\x7d".toList [] =
      .ok ("typeName", ⟨11, ":true\x7d".toList⟩) := by
    simp [Json.readString]
  have behind : Json.readName Json.Decoder.ofHundred.standIn ⟨1, "\"typeName\":true\x7d".toList⟩ =
      .ok ("typeName", ⟨12, "true\x7d".toList⟩) := by
    show (Json.readString Json.Decoder.ofHundred.standIn 1 2 "typeName\":true\x7d".toList [] >>= _) = _
    rw [name]
    rfl
  have members : Json.readMembers Json.Decoder.ofHundred.standIn (Json.readValue Json.Decoder.ofHundred.standIn 99) 17
      ⟨1, "\"typeName\":true\x7d".toList⟩ [] =
      .ok (.map [(.text "typeName", .bool true)], ⟨17, []⟩) := by
    show (Json.readName Json.Decoder.ofHundred.standIn ⟨1, "\"typeName\":true\x7d".toList⟩ >>= _) = _
    rw [behind]
    rfl
  have read : Json.Decoder.ofHundred.readChars "\x7b\"typeName\":true\x7d".toList =
      .ok (.map [(.text "typeName", .bool true)]) := by
    show (Json.readMembers Json.Decoder.ofHundred.standIn (Json.readValue Json.Decoder.ofHundred.standIn 99) 17
      ⟨1, "\"typeName\":true\x7d".toList⟩ [] >>= _) = _
    rw [members]
    rfl
  show objectOf "\x7b\"typeName\":true\x7d".toList
    (Json.Decoder.ofHundred.readChars "\x7b\"typeName\":true\x7d".toList) = _
  rw [read]
  rfl

/-- The third page of a sorted request within a scope. -/
theorem page_vetted_within_scope :
    let parameters : RequestParameters :=
      ⟨.text "\x7b\"typeName\":true\x7d", .text "-created", .text "3", .int 20, .int 10⟩
    let scope : Value := .map [(.text "workspace", .text "w")]
    let confined : Value :=
      .map [(.text "$and", .list [.map [(.text "type_name", .bool true)], scope])]
    let calls := callsOf (page .ofHundred Registry.ofFiles (.int 7) (Script.blank.model "Files") parameters scope none)
    Registry.ofFiles.identityField = .text "_id" ∧
      calls.filterMap Call.foundFilter? = [confined] ∧
      calls.filterMap Call.countedFilter? = [confined] ∧
      calls.filterMap Call.skipped? = [.int 40] ∧ calls.filterMap Call.limited? = [.int 20] ∧
      calls.filterMap Call.sortedBy? =
        [.map [(.text "created_at", .text "desc"), (.text "_id", .text "asc")]] := by
  intro parameters scope confined calls
  have parsed : parse Registry.ofFiles (.int 7) (.map [(.text "typeName", .bool true)]) =
      .ok (.map [(.text "type_name", .bool true)]) :=
    parse_map_of_valid (by rfl) (by rfl) (by rfl)
  have described : parseSort Registry.ofFiles parameters.sort =
      .ok (some [(.text "created_at", .descending)]) := by rfl
  let query : PageQuery := ⟨.map [(.text "type_name", .bool true)], .text "-created",
    SortOrder.toValue [(.text "created_at", .descending)], 3, 20, by decide, by decide⟩
  have read : readPage .ofHundred Registry.ofFiles (.int 7) parameters = .ok query := by
    have built : PageQuery.ofParameters .ofHundred parameters =
        .ok ⟨.map [(.text "typeName", .bool true)], .text "-created", .null, 3, 20, by decide,
          by decide⟩ := by
      rw [PageQuery.ofParameters, decodeFilter_condition]
      rfl
    have vetted : PageQuery.canonical Registry.ofFiles (.int 7)
        ⟨.map [(.text "typeName", .bool true)], .text "-created", .null, 3, 20, by decide, by decide⟩ =
        .ok query := by
      rw [PageQuery.canonical, parsed]
      rfl
    rw [readPage, built]
    simp only [vetted]
  have short : ¬PageOverlong query scope := by
    have page : ¬Number.IsOverlong 3 := Number.not_isOverlong_of_lt (by decide)
    have limit : ¬Number.IsOverlong 20 := Number.not_isOverlong_of_lt (by decide)
    simp [PageOverlong, query, page, limit, SortOrder.toValue, scope, Value.holdsOverlong_map,
      Value.holdsOverlong_atom, Atom.IsOverlong]
  refine ⟨rfl, ?_⟩
  rcases page_refused_or_vetted .ofHundred Registry.ofFiles "_id" rfl 7 (Script.blank.model "Files") parameters
    scope none with ⟨-, silent⟩ | ⟨_, run, order, answered, known, -, -, vetted⟩
  · have asked : Asked "_id" query [(.text "created_at", .descending)] confined calls := by
      rw [show calls = _ from congrArg callsOf (congrArg (Except.map _) read)]
      exact find_asked rfl rfl (by rfl) short
    have found := asked.found
    rw [show calls = [] from silent] at found
    cases found
  · have same := Except.ok.inj (known.sorted.symm.trans described)
    rw [page, read] at answered
    obtain ⟨rfl, -⟩ := Prod.mk.inj (Except.ok.inj answered)
    obtain rfl : order = [(.text "created_at", .descending)] := by
      cases empty : order.isEmpty with
      | true =>
        rw [empty] at same
        cases same
      | false =>
        rw [empty] at same
        exact Option.some.inj same
    have asked := (vetted short).1
    exact ⟨asked.found, asked.counted, asked.skipped, asked.limited, asked.sorted⟩

/-- A page whose size has too many digits is well asked for, but the model is never asked. -/
theorem overlong_size_never_asked :
    let parameters : RequestParameters := ⟨.null, .null, .null, .int Number.leastOverlong, .int 10⟩
    let answer := page .ofHundred Registry.ofFiles (.int 7) (Script.blank.model "Files") parameters .null none
    Registry.ofFiles.NamesFields ∧ Registry.ofFiles.identityField = .text "_id" ∧ ¬Refused answer ∧
      callsOf answer = [] := by
  intro parameters answer
  have large : 1 ≤ Number.leastOverlong := Number.leastOverlong_pos
  let query : PageQuery := ⟨.empty, .null, .null, 1, Number.leastOverlong, by decide, large⟩
  have read : readPage .ofHundred Registry.ofFiles (.int 7) parameters = .ok query := by
    have size : positive "limit" (.int Number.leastOverlong) = .ok ⟨Number.leastOverlong, large⟩ := by
      rw [positive]
      exact dif_pos large
    have built : PageQuery.ofParameters .ofHundred parameters = .ok query := by
      change RequestError.ofParameter (PageQuery.ofValues .empty .null .null (.int 1)
        (.int Number.leastOverlong)) = _
      unfold PageQuery.ofValues
      rw [size]
      rfl
    rw [readPage, built]
    rfl
  have stopped : (Collector.forRegistry (Script.blank.model "Files") Registry.ofFiles).find query .null none =
      .refused .overlong :=
    find_of_overlong (by rfl) (.inr (.inl Number.isOverlong_leastOverlong))
  have answered : answer = .ok (query, .refused .overlong) := by
    change (readPage .ofHundred Registry.ofFiles (.int 7) parameters).map _ = _
    rw [read, Except.map, stopped]
  refine ⟨Registry.ofFiles_namesFields, rfl, ?_, by rw [answered]; rfl⟩
  rw [answered]
  intro refused
  cases refused

end QueryGate.Service
