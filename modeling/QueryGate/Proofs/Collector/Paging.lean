import Mathlib.Data.List.Pairwise
import QueryGate.Proofs.Collector.Collection
import QueryGate.Proofs.Collector.Turns
/-!
Paging through a result. Where the identity field tells all documents apart, a sort order that ends with
it leaves one way to sort them, so every page is a window on the same list, however a model resolves ties
and however the answers to different pages differ. Following the links from the first page goes through
all windows once.
-/

namespace QueryGate.Collector

open QueryGate.Query

/-! ## One order -/

/-- The identity field tells all documents apart. -/
def Collection.Identified (collection : Collection) (identity : String) : Prop :=
  collection.documents.Pairwise fun first second =>
    collection.compare (.text identity) first second ≠ .eq

variable {collection : Collection} {identity : String} {order : SortOrder}

private theorem Collection.Identified.eq_of_compare_eq (identified : collection.Identified identity)
    {first second : Value} (member : first ∈ collection.documents)
    (other : second ∈ collection.documents)
    (same : collection.compare (.text identity) first second = .eq) : first = second := by
  have ordered := collection.ordered (.text identity)
  have symmetric : Std.Symm fun first second =>
      collection.compare (.text identity) first second ≠ .eq :=
    ⟨fun _ _ different same => different (Std.OrientedCmp.eq_symm same)⟩
  by_contra different
  exact identified.forall member other different same

private theorem Collection.Identified.nodup (identified : collection.Identified identity) :
    collection.documents.Nodup := by
  have ordered := collection.ordered (.text identity)
  refine List.Pairwise.imp ?_ identified
  rintro first second different rfl
  exact different Std.ReflCmp.compare_self

/-- Documents that match a filter can be sorted in one way only. -/
theorem Collection.Identified.eq_sorted (identified : collection.Identified identity) {filter : Value}
    {documents : List Value} (matched : documents.Perm (collection.matching filter))
    (ordered : documents.Pairwise fun first second =>
      (collection.compareBy (tieBroken identity order) first second).isLE) :
    documents = collection.sorted filter (tieBroken identity order) := by
  have sorted := collection.sorted_perm filter (tieBroken identity order)
  refine List.Perm.eq_of_pairwise ?_ ordered (collection.sorted_pairwise filter _)
    (matched.trans sorted.symm)
  intro first second member other below above
  have same : collection.compareBy (tieBroken identity order) first second = .eq :=
    Std.OrientedCmp.isLE_antisymm below above
  have inside {document : Value} (member : document ∈ collection.matching filter) :
      document ∈ collection.documents := (List.mem_filter.mp member).1
  exact identified.eq_of_compare_eq (inside (matched.mem_iff.mp member))
    (inside (sorted.mem_iff.mp other))
    (Collection.compareBy_eq_iff.mp same _ (identity_mem_tieBroken identity order))

/-! ## One page -/

private theorem plan?_page (query : PageQuery) (populate : Option (List Relation)) (confined : Value)
    (sorts : order.isEmpty = false) :
    FindRequest.plan? ⟨confined, pageSteps query populate ++ orderStep identity order⟩ =
      some ⟨tieBroken identity order, ((query.page - 1) * query.limit).toNat, some query.limit.toNat⟩ := by
  have start : 0 ≤ (query.page - 1) * query.limit :=
    Int.mul_nonneg (by have := query.page_pos; omega) (by have := query.limit_pos; omega)
  have size : 0 ≤ query.limit := by have := query.limit_pos; omega
  rw [FindRequest.plan?, orderStep, sorts, pageSteps]
  simp [Plan.refine?, Plan.all, start, size, readOrder?_toValue]

/-- The page of a query, as a window on a result. -/
def windowOf (query : PageQuery) (documents : List Value) : PageResponse where
  data := (documents.drop ((query.page - 1) * query.limit).toNat).take query.limit.toNat
  pagination := (paginate query.page query.limit documents.length).map Value.int

private theorem find_window {collector : Collector} {query : PageQuery} {scope confined : Value}
    {populate : Option (List Relation)} (identified : collection.Identified identity)
    (answers : Answers collection collector.model)
    (declared : collector.identityField = .text identity) (sorts : order.isEmpty = false)
    (sorter : query.sorter = sorterOf order) (within : scopedFilter query.filter scope = .ok confined)
    (short : ¬PageOverlong query scope) :
    (collector.find query scope populate).outcome =
      .ok (windowOf query (collection.sorted confined (tieBroken identity order))) := by
  obtain ⟨documents, matched, ordered, returned⟩ := answers.find _ _ (plan?_page query populate confined sorts)
  have counted := answers.count confined
  obtain ⟨line, told⟩ := exists_pageLine within short
  rw [find_eq declared sorter within told]
  show joinedOutcome query
    (collector.model.find ⟨confined, pageSteps query populate ++ orderStep identity order⟩)
    (collector.model.count ⟨confined, none⟩) = _
  rw [joinedOutcome, Joined.settled_of_returns returned counted]
  show pageOf query _ _ = _
  rw [pageOf, paginateValue?_int, identified.eq_sorted matched ordered, windowOf,
    (collection.sorted_perm confined (tieBroken identity order)).length_eq]
  rfl

/-! ## All pages -/

def turnedTo (query : PageQuery) (number : Int) (inRange : 1 ≤ number) : PageQuery :=
  { query with page := number, page_pos := inRange }

/-- The answers on the way from a query along the links to the next page, up to the page without one.
The answer to each query may depend on how many were asked before. -/
inductive PageRun (ask : Nat → PageQuery → Except CollectError PageResponse) :
    Nat → PageQuery → List PageResponse → Prop
  | last {turn : Nat} {query : PageQuery} {response : PageResponse}
      (answered : ask turn query = .ok response) (ends : response.pagination.next = none) :
      PageRun ask turn query [response]
  | more {turn : Nat} {query : PageQuery} {response : PageResponse} {others : List PageResponse}
      {number : Int} (inRange : 1 ≤ number) (answered : ask turn query = .ok response)
      (next : response.pagination.next = some (.int number))
      (rest : PageRun ask (turn + 1) (turnedTo query number inRange) others) :
      PageRun ask turn query (response :: others)

variable {ask : Nat → PageQuery → Except CollectError PageResponse}

theorem PageRun.unique {turn : Nat} {query : PageQuery} {first second : List PageResponse}
    (run : PageRun ask turn query first) (other : PageRun ask turn query second) : first = second := by
  induction run generalizing second with
  | last answered ends =>
    cases other with
    | last again _ => rw [Except.ok.inj (answered.symm.trans again)]
    | more _ again next _ =>
      rw [← Except.ok.inj (answered.symm.trans again), ends] at next
      cases next
  | more inRange answered next rest ih =>
    cases other with
    | last again ends =>
      rw [← Except.ok.inj (answered.symm.trans again), next] at ends
      cases ends
    | more _ again later others =>
      obtain rfl := Except.ok.inj (answered.symm.trans again)
      rw [next] at later
      cases later
      rw [ih others]

theorem windowOf_turnedTo {query : PageQuery} {size : Nat} (sized : query.limit = size)
    (documents : List Value) (passed : Nat) (inRange : 1 ≤ (passed : Int) + 1) :
    (windowOf (turnedTo query (passed + 1) inRange) documents).data =
        (documents.drop (passed * size)).take size ∧
      (windowOf (turnedTo query (passed + 1) inRange) documents).pagination.next =
        if documents.length ≤ (passed + 1) * size then none
        else some (.int ((passed + 1 : Nat) + 1)) := by
  have start : ((passed : Int) + 1 - 1) * size = (passed * size : Nat) := by
    rw [Int.add_sub_cancel, Int.natCast_mul]
  have ends : ((documents.length : Int) ≤ ((passed : Int) + 1) * size) ↔
      documents.length ≤ (passed + 1) * size := by
    rw [← Int.ofNat_le, Int.natCast_mul, Int.natCast_add, Int.natCast_one]
  constructor
  · rw [windowOf, turnedTo]
    simp only [sized, start, Int.toNat_natCast]
  · rw [windowOf, turnedTo]
    simp only [Pagination.map, paginate, nextPage, sized, ends, decide_eq_true_eq]
    by_cases last : documents.length ≤ (passed + 1) * size
    · rw [if_pos last, if_pos last]
      rfl
    · rw [if_neg last, if_neg last]
      rfl

/-- From any page that has documents, or from the first one, the links lead through all windows behind, if all
pages up to a last one are answered. -/
theorem exists_pageRun {query : PageQuery} {size last : Nat} (sized : query.limit = size)
    {documents : List Value}
    (answered : ∀ turn (number : Int) inRange, number ≤ last → ask turn (turnedTo query number inRange) =
      .ok (windowOf (turnedTo query number inRange) documents))
    (turn passed : Nat) (inRange : 1 ≤ (passed : Int) + 1)
    (inside : passed = 0 ∨ passed * size < documents.length)
    (few : passed + max 1 ((documents.length - passed * size + size - 1) / size) ≤ last) :
    ∃ responses, PageRun ask turn (turnedTo query (passed + 1) inRange) responses ∧
      responses.length = max 1 ((documents.length - passed * size + size - 1) / size) ∧
      responses.flatMap PageResponse.data = documents.drop (passed * size) := by
  have positive : 1 ≤ size := by
    have := query.limit_pos
    omega
  generalize left : documents.length - passed * size = remaining
  induction remaining using Nat.strongRecOn generalizing turn passed with
  | _ remaining ih =>
    have here := answered turn (passed + 1) inRange (by omega)
    obtain ⟨data, next⟩ := windowOf_turnedTo sized documents passed inRange
    have after : (passed + 1) * size = passed * size + size := Nat.succ_mul passed size
    by_cases ends : documents.length ≤ (passed + 1) * size
    · rw [if_pos ends] at next
      refine ⟨_, .last here next, ?_, ?_⟩
      · have few : (remaining + size - 1) / size < 2 := Nat.div_lt_of_lt_mul (by omega)
        rw [List.length_singleton]
        omega
      · rw [List.flatMap_singleton, data, List.take_of_length_le]
        rw [List.length_drop]
        omega
    · rw [if_neg ends] at next
      have further : documents.length - (passed + 1) * size = remaining - size := by omega
      have split : remaining + size - 1 = remaining - size + size - 1 + size := by omega
      have some : 1 ≤ (remaining - size + size - 1) / size :=
        (Nat.one_le_div_iff positive).mpr (by omega)
      rw [left, split, Nat.add_div_right _ positive] at few
      obtain ⟨others, run, count, rest⟩ := ih (remaining - size) (by omega) (turn + 1) (passed + 1)
        (by omega) (.inr (by omega)) (by rw [further]; omega) further
      refine ⟨_ :: others, .more _ here next run, ?_, ?_⟩
      · rw [List.length_cons, count, split, Nat.add_div_right _ positive]
        omega
      · rw [List.flatMap_cons, data, rest, after, ← List.drop_drop, List.take_append_drop]

/-- If a page that the links lead to is not answered, they lead to no end. -/
theorem no_pageRun {query : PageQuery} {size stop : Nat} (sized : query.limit = size)
    {documents : List Value}
    (answered : ∀ turn (number : Int) inRange, number ≤ stop → ask turn (turnedTo query number inRange) =
      .ok (windowOf (turnedTo query number inRange) documents))
    (unanswered : ∀ turn inRange response, ask turn (turnedTo query (stop + 1) inRange) ≠ .ok response)
    (filled : stop * size < documents.length) {turn passed : Nat} (inRange : 1 ≤ (passed : Int) + 1)
    (before : passed ≤ stop) {responses : List PageResponse} :
    ¬PageRun ask turn (turnedTo query (passed + 1) inRange) responses := by
  intro run
  generalize left : stop - passed = remaining
  induction remaining generalizing turn passed responses with
  | zero =>
    obtain rfl : passed = stop := by omega
    cases run with
    | last again _ => exact unanswered _ _ _ again
    | more _ again _ _ => exact unanswered _ _ _ again
  | succ remaining ih =>
    have here := answered turn (passed + 1) inRange (by omega)
    have further : ¬documents.length ≤ (passed + 1) * size := by
      have : (passed + 1) * size ≤ stop * size := Nat.mul_le_mul_right size (by omega)
      omega
    obtain ⟨-, next⟩ := windowOf_turnedTo sized documents passed inRange
    rw [if_neg further] at next
    cases run with
    | last again ends =>
      rw [← Except.ok.inj (here.symm.trans again), next] at ends
      cases ends
    | more _ again later rest =>
      obtain rfl := Except.ok.inj (here.symm.trans again)
      rw [next] at later
      cases later
      exact ih (by omega) (by omega) rest (by omega)

def asking (models : Nat → Model) (identity : String) (scope : Value)
    (populate : Option (List Relation)) (turn : Nat) (query : PageQuery) :
    Except CollectError PageResponse :=
  (Collector.find ⟨models turn, .text identity⟩ query scope populate).outcome

/-- A number that is not above one that can be written, and not below zero, can be written. -/
theorem not_isOverlong_of_le {number : Int} (start : 1 ≤ number) {last : Nat} (below : number ≤ last)
    (short : last < Number.overlongBound) : ¬Number.IsOverlong number := by
  intro long
  have size : number.natAbs ≤ last := by omega
  exact absurd (Nat.lt_of_le_of_lt (Nat.le_trans long size) short) (Nat.lt_irrefl _)

theorem pageOverlong_turnedTo {query : PageQuery} {scope : Value} {number : Int} {inRange : 1 ≤ number}
    (first : ¬Number.IsOverlong query.page) :
    PageOverlong (turnedTo query number inRange) scope ↔
      Number.IsOverlong number ∨ PageOverlong query scope := by
  simp only [PageOverlong, turnedTo, first, false_or]

section

variable {models : Nat → Model} {query : PageQuery} {scope confined : Value} {populate : Option (List Relation)}

theorem asking_of_overlong (within : scopedFilter query.filter scope = .ok confined)
    (overlong : PageOverlong query scope) (turn : Nat) :
    asking models identity scope populate turn query = .error .overlong :=
  congrArg Run.outcome (find_of_overlong within overlong)

theorem asking_turnedTo (identified : collection.Identified identity)
    (answers : ∀ turn, Answers collection (models turn)) (sorts : order.isEmpty = false)
    (sorter : query.sorter = sorterOf order) (within : scopedFilter query.filter scope = .ok confined)
    (first : ¬Number.IsOverlong query.page) (short : ¬PageOverlong query scope) {last : Nat}
    (few : last < Number.overlongBound) (populate : Option (List Relation)) (turn : Nat) (number : Int)
    (inRange : 1 ≤ number) (below : number ≤ last) :
    asking models identity scope populate turn (turnedTo query number inRange) =
      .ok (windowOf (turnedTo query number inRange) (collection.sorted confined (tieBroken identity order))) := by
  refine find_window identified (answers turn) rfl sorts sorter within ?_
  rw [pageOverlong_turnedTo first]
  exact not_or.mpr ⟨not_isOverlong_of_le inRange below few, short⟩

/-- Where the documents fill as many pages as there are numbers of pages, the links lead to a page whose number
cannot be written. -/
theorem no_pageRun_of_many (identified : collection.Identified identity)
    (answers : ∀ turn, Answers collection (models turn)) (sorts : order.isEmpty = false)
    (sorter : query.sorter = sorterOf order) (within : scopedFilter query.filter scope = .ok confined)
    (first : ¬Number.IsOverlong query.page) (short : ¬PageOverlong query scope)
    (many : Number.overlongBound ≤
      max 1 (((collection.matching confined).length + query.limit.toNat - 1) / query.limit.toNat))
    {responses : List PageResponse} :
    ¬PageRun (asking models identity scope populate) 0 (turnedTo query ((0 : Nat) + 1) (by omega)) responses := by
  have positive := query.limit_pos
  have sized : query.limit = (query.limit.toNat : Int) := (Int.toNat_of_nonneg (by omega)).symm
  obtain ⟨stop, bound, several⟩ : ∃ stop, Number.overlongBound = stop + 1 ∧ 1 ≤ stop := by
    have large := Number.billion_le_overlongBound
    exact ⟨Number.overlongBound - 1, by omega, by omega⟩
  have filled : stop * query.limit.toNat < (collection.sorted confined (tieBroken identity order)).length := by
    have enough : stop + 1 ≤
        ((collection.matching confined).length + query.limit.toNat - 1) / query.limit.toNat := by
      rw [bound] at many
      omega
    have product := (Nat.le_div_iff_mul_le (by omega)).mp enough
    rw [Nat.succ_mul] at product
    rw [(collection.sorted_perm confined (tieBroken identity order)).length_eq]
    omega
  have unanswered (turn : Nat) (inRange : 1 ≤ (stop : Int) + 1) (response : PageResponse) :
      asking models identity scope populate turn (turnedTo query (stop + 1) inRange) ≠ .ok response := by
    have long : Number.IsOverlong ((stop : Int) + 1) := by
      rw [Number.IsOverlong, bound]
      omega
    have same : scopedFilter (turnedTo query (stop + 1) inRange).filter scope = .ok confined := within
    intro again
    cases again.symm.trans (asking_of_overlong same ((pageOverlong_turnedTo first).mpr (.inl long)) turn)
  have last : stop < Number.overlongBound := by omega
  have answered := asking_turnedTo identified answers sorts sorter within first short last populate
  exact no_pageRun sized answered unanswered filled (by omega) (Nat.zero_le _)

end

/-- Following the links from the first page of a sorted query comes to an end after as many pages as the
matching documents fill, and the pages hold each matching document once, in the requested order. A page whose
number has too many digits is not answered, so there must not be that many, and no page is if the query or its
scope holds such a number. -/
theorem pages_enumerate (collection : Collection) (identity : String)
    (identified : collection.Identified identity) (models : Nat → Model)
    (answers : ∀ turn, Answers collection (models turn)) (query : PageQuery) (order : SortOrder)
    (sorts : order ≠ []) (sorter : query.sorter = order.toValue) (first : query.page = 1)
    (scope confined : Value) (within : scopedFilter query.filter scope = .ok confined)
    (populate : Option (List Relation)) :
    let ask := asking models identity scope populate
    let pages := max 1 (((collection.matching confined).length + query.limit.toNat - 1) / query.limit.toNat)
    (PageOverlong query scope → ∀ turn, ask turn query = .error .overlong) ∧
    (Number.overlongBound ≤ pages → ∀ responses, ¬PageRun ask 0 query responses) ∧
    (¬PageOverlong query scope → pages < Number.overlongBound →
      ∃ responses, (∀ others, PageRun ask 0 query others ↔ others = responses) ∧
        responses.length = pages ∧
        (responses.flatMap PageResponse.data).Perm (collection.matching confined) ∧
        (responses.flatMap PageResponse.data).Nodup ∧
        (responses.flatMap PageResponse.data).Pairwise fun before after =>
          (collection.compareBy order before after).isLE) := by
  intro ask pages
  have some : order.isEmpty = false := List.isEmpty_eq_false_iff.mpr sorts
  have given : query.sorter = sorterOf order := by
    rw [sorter, sorterOf, some]
    rfl
  have positive := query.limit_pos
  have sized : query.limit = (query.limit.toNat : Int) := (Int.toNat_of_nonneg (by omega)).symm
  have written : ¬Number.IsOverlong query.page := by
    rw [first]
    exact Number.not_isOverlong_of_lt (by decide)
  have refused (overlong : PageOverlong query scope) (turn : Nat) : ask turn query = .error .overlong :=
    asking_of_overlong within overlong turn
  have matched := collection.sorted_perm confined (tieBroken identity order)
  have begun : turnedTo query ((0 : Nat) + 1) (by omega) = query := by
    rw [turnedTo]
    cases query
    cases first
    rfl
  refine ⟨refused, fun many responses run => ?_, fun short few => ?_⟩
  · by_cases overlong : PageOverlong query scope
    · cases run with
      | last again _ => cases (refused overlong 0).symm.trans again
      | more _ again _ _ => cases (refused overlong 0).symm.trans again
    · rw [← begun] at run
      exact no_pageRun_of_many identified answers some given within written overlong many run
  have whole : (collection.sorted confined (tieBroken identity order)).length - 0 * query.limit.toNat =
      (collection.matching confined).length := by
    rw [Nat.zero_mul, Nat.sub_zero]
    exact matched.length_eq
  have filled : max 1 (((collection.sorted confined (tieBroken identity order)).length - 0 * query.limit.toNat +
      query.limit.toNat - 1) / query.limit.toNat) = pages :=
    congrArg (fun rest => max 1 ((rest + query.limit.toNat - 1) / query.limit.toNat)) whole
  have answered := asking_turnedTo identified answers some given within written short few populate
  obtain ⟨responses, run, count, data⟩ := exists_pageRun sized answered 0 0 (by omega) (.inl rfl)
    (Nat.le_of_eq ((Nat.zero_add _).trans filled))
  rw [begun] at run
  rw [Nat.zero_mul, List.drop_zero] at data
  refine ⟨responses, fun others => ⟨fun other => other.unique run, fun same => same ▸ run⟩, ?_, ?_, ?_, ?_⟩
  · exact count.trans filled
  · rw [data]
    exact matched
  · rw [data, matched.nodup_iff]
    exact identified.nodup.filter _
  · rw [data]
    exact (collection.sorted_pairwise confined _).imp Collection.isLE_of_isLE_tieBroken

def numberAt (field : Atom) : Value → Int
  | .map entries => match Entries.get? entries field with
    | some (.int number) => number
    | _ => 0
  | _ => 0

def ranked (rank number : Int) : Value := .map [(.text "rank", .int rank), (.text "_id", .int number)]

def rankings : Collection where
  documents := [ranked 1 7, ranked 2 4, ranked 1 5, ranked 1 6]
  accepts := fun filter document => match filter with
    | .map entries => entries.all fun entry => numberAt entry.1 document == numberAt entry.1 filter
    | _ => false
  compare := fun field => compareOn (numberAt field)
  ordered := fun _ => inferInstance

/-- Three documents that the order does not tell apart fill two pages of two. -/
theorem pages_enumerate_ties :
    let query : PageQuery := ⟨.map [(.text "rank", .int 1)], .null,
      SortOrder.toValue [(.text "rank", .descending)], 1, 2, by decide, by decide⟩
    let models : Nat → Model := fun _ => rankings.sortingModel "rankings"
    rankings.Identified "_id" ∧ (∀ turn, Answers rankings (models turn)) ∧
      scopedFilter query.filter .null = .ok query.filter ∧
      ∃ responses, (∀ others, PageRun (asking models "_id" .null none) 0 query others ↔
          others = responses) ∧
        responses.length = 2 ∧
        (responses.flatMap PageResponse.data).Perm [ranked 1 7, ranked 1 5, ranked 1 6] := by
  intro query models
  have identified : rankings.Identified "_id" := by
    simp only [Collection.Identified, rankings]
    decide
  have answers (turn : Nat) : Answers rankings (models turn) := rankings.sortingModel_answers "rankings"
  have within : scopedFilter query.filter .null = .ok query.filter := by rfl
  have found : rankings.matching query.filter = [ranked 1 7, ranked 1 5, ranked 1 6] := by rfl
  have pages : max 1 (((rankings.matching query.filter).length + query.limit.toNat - 1) / query.limit.toNat) = 2 := by
    rw [found]
    decide
  have short : ¬PageOverlong query .null := by
    have one : ¬Number.IsOverlong 1 := Number.not_isOverlong_of_lt (by decide)
    have two : ¬Number.IsOverlong 2 := Number.not_isOverlong_of_lt (by decide)
    simp [PageOverlong, query, one, two, SortOrder.toValue, Value.holdsOverlong_map,
      Value.holdsOverlong_atom, Atom.IsOverlong]
  have few : 2 < Number.overlongBound := Nat.lt_of_lt_of_le (by decide) Number.billion_le_overlongBound
  obtain ⟨-, -, ends⟩ := pages_enumerate rankings "_id" identified models answers
    query [(.text "rank", .descending)] (by simp) rfl rfl .null query.filter within none
  rw [pages, found] at ends
  obtain ⟨responses, unique, count, matched, -, -⟩ := ends short few
  exact ⟨identified, answers, within, responses, unique, count, matched⟩

/-- Pages of a size that cannot be written are never found, and no more are pages in an order by a field that cannot
be written. -/
theorem overlong_query_never_paged :
    let order : SortOrder := [(.int Number.leastOverlong, .ascending)]
    let ranks : SortOrder := [(.text "rank", .ascending)]
    let large : PageQuery :=
      ⟨.empty, .null, ranks.toValue, 1, Number.leastOverlong, by decide, Number.leastOverlong_pos⟩
    let ordered : PageQuery := ⟨.empty, .null, order.toValue, 1, 2, by decide, by decide⟩
    let models : Nat → Model := fun _ => rankings.sortingModel "rankings"
    rankings.Identified "_id" ∧ (∀ turn, Answers rankings (models turn)) ∧
      scopedFilter .empty .null = .ok .empty ∧
      ∀ query ∈ [large, ordered], ∀ responses, ¬PageRun (asking models "_id" .null none) 0 query responses := by
  intro order ranks large ordered models
  have identified : rankings.Identified "_id" := by
    simp only [Collection.Identified, rankings]
    decide
  have within : scopedFilter .empty .null = .ok .empty := by rfl
  have long : order.toValue.HoldsOverlong :=
    .key (List.mem_singleton_self _) (Atom.isOverlong_int.mpr Number.isOverlong_leastOverlong)
  have refused : ∀ query ∈ [large, ordered], asking models "_id" .null none 0 query = .error .overlong := by
    rw [List.forall_mem_cons, List.forall_mem_singleton]
    exact ⟨congrArg Run.outcome (find_of_overlong within (.inr (.inl Number.isOverlong_leastOverlong))),
      congrArg Run.outcome (find_of_overlong within (.inr (.inr (.inl long))))⟩
  refine ⟨identified, fun _ => rankings.sortingModel_answers "rankings", within, fun query listed responses run => ?_⟩
  have stopped := refused query listed
  cases run with
  | last again _ => cases stopped.symm.trans again
  | more _ again _ _ => cases stopped.symm.trans again

end QueryGate.Collector
