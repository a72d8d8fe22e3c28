import Mathlib
import QueryGate.Proofs.Collector.Collection
/-!
How the pages of a result hang together. The last page is told by the number of documents alone, the links of a
page look at that page alone, and a request looks only at what lies before its page. They agree: the links lead
through the pages up to the last one and back, and each document lies in the window of one of them.
-/

namespace QueryGate.Collector

open QueryGate.Query

def lastPage (limit total : Int) : Int := max 1 ⌈(total : ℚ) / limit⌉

def window (limit page : Int) : Set Int := Set.Ico ((page - 1) * limit) (page * limit)

/-- The pages on the way from a page along the links to the next one, up to the page without one. -/
inductive PageWalk (limit total : Int) : Int → List Int → Prop
  | last {page : Int} (ends : (paginate page limit total).next = none) : PageWalk limit total page [page]
  | more {page next : Int} {others : List Int} (leads : (paginate page limit total).next = some next)
      (rest : PageWalk limit total next others) : PageWalk limit total page (page :: others)

def pagesFrom (page : Int) : Nat → List Int
  | 0 => []
  | count + 1 => page :: pagesFrom (page + 1) count

variable {limit total page : Int}

/-! ## The last page -/

theorem one_le_lastPage : 1 ≤ lastPage limit total := le_max_left ..

/-- The documents end on a page or before it exactly if the last page does. -/
theorem total_le_iff (sized : 1 ≤ limit) (inRange : 1 ≤ page) :
    total ≤ page * limit ↔ lastPage limit total ≤ page := by
  have positive : (0 : ℚ) < limit := by exact_mod_cast sized
  rw [lastPage, max_le_iff, Int.ceil_le, div_le_iff₀ positive]
  norm_cast
  exact (and_iff_right inRange).symm

theorem next_eq (sized : 1 ≤ limit) (inRange : 1 ≤ page) :
    (paginate page limit total).next = if lastPage limit total ≤ page then none else some (page + 1) := by
  simp only [paginate, nextPage, decide_eq_true_eq, total_le_iff sized inRange]

theorem next_eq_some_iff (sized : 1 ≤ limit) (inRange : 1 ≤ page) {next : Int} :
    (paginate page limit total).next = some next ↔ page < lastPage limit total ∧ next = page + 1 := by
  rw [next_eq sized inRange]
  split
  next beyond => simp only [reduceCtorEq, not_lt.mpr beyond, false_and]
  next inside => simp only [Option.some.injEq, not_le.mp inside, true_and, eq_comm]

theorem prev_eq (other : page ≠ 1) : (paginate page limit total).prev = some (page - 1) := by
  simp only [paginate, prevPage, if_neg other]

/-! ## The walk along the links -/

theorem mem_pagesFrom {count : Nat} {other : Int} :
    other ∈ pagesFrom page count ↔ page ≤ other ∧ other < page + count := by
  induction count generalizing page with
  | zero =>
    simp only [pagesFrom, List.not_mem_nil, false_iff, Nat.cast_zero]
    omega
  | succ count ih =>
    rw [pagesFrom, List.mem_cons, ih]
    omega

private theorem nodup_pagesFrom (page : Int) (count : Nat) : (pagesFrom page count).Nodup := by
  induction count generalizing page with
  | zero => exact List.nodup_nil
  | succ count ih =>
    rw [pagesFrom, List.nodup_cons, mem_pagesFrom]
    exact ⟨by omega, ih (page + 1)⟩

/-- From a page the links lead through all pages up to the last one, and there is no other way. -/
theorem pageWalk_iff (sized : 1 ≤ limit) {pages : List Int} {behind : Nat} (inRange : 1 ≤ page)
    (inside : page + behind = lastPage limit total) :
    PageWalk limit total page pages ↔ pages = pagesFrom page (behind + 1) := by
  induction behind generalizing page pages with
  | zero =>
    have ends : (paginate page limit total).next = none := by
      rw [next_eq sized inRange, if_pos (by omega)]
    constructor
    · intro walk
      cases walk with
      | last _ => rfl
      | more leads _ =>
        rw [ends] at leads
        cases leads
    · rintro rfl
      exact .last ends
  | succ behind ih =>
    have leads : (paginate page limit total).next = some (page + 1) :=
      (next_eq_some_iff sized inRange).mpr ⟨by omega, rfl⟩
    have later {others : List Int} :
        PageWalk limit total (page + 1) others ↔ others = pagesFrom (page + 1) (behind + 1) :=
      ih (by omega) (by omega)
    rw [pagesFrom]
    constructor
    · intro walk
      cases walk with
      | last ends =>
        rw [leads] at ends
        cases ends
      | more known rest =>
        rw [leads] at known
        obtain rfl := Option.some.inj known
        rw [later.mp rest]
    · rintro rfl
      exact .more leads (later.mpr rfl)

/-! ## Windows -/

private theorem disjoint_window (sized : 1 ≤ limit) {other : Int} (differ : page ≠ other) :
    Disjoint (window limit page) (window limit other) := by
  rw [window, window, Set.Ico_disjoint_Ico]
  rcases Int.lt_or_gt_of_ne differ with before | after
  · exact (min_le_left ..).trans (le_trans (by nlinarith) (le_max_right ..))
  · exact (min_le_right ..).trans (le_trans (by nlinarith) (le_max_left ..))

private theorem exists_window (sized : 1 ≤ limit) {index : Int} (inResult : 0 ≤ index) (below : index < total) :
    ∃ page, 1 ≤ page ∧ page ≤ lastPage limit total ∧ index ∈ window limit page := by
  have start : index / limit * limit ≤ index := Int.ediv_mul_le index (by omega)
  have stop : index < (index / limit + 1) * limit := Int.lt_ediv_add_one_mul_self index (by omega)
  have counted : 0 ≤ index / limit := Int.ediv_nonneg inResult (by omega)
  refine ⟨index / limit + 1, by omega, ?_, by rwa [add_sub_cancel_right], stop⟩
  by_contra beyond
  have further : 1 ≤ index / limit := by
    have some : 1 ≤ lastPage limit total := one_le_lastPage
    omega
  have ended : total ≤ index / limit * limit := (total_le_iff sized further).mpr (by omega)
  omega

private theorem exists_index (sized : 1 ≤ limit) (counted : 0 ≤ total) (inRange : 1 ≤ page)
    (inside : page ≤ lastPage limit total) :
    page = 1 ∧ total = 0 ∨ ∃ index ∈ window limit page, index < total := by
  have filled : (page - 1) * limit < page * limit := by nlinarith
  have shown : (page - 1) * limit ∈ window limit page := ⟨le_rfl, filled⟩
  rcases eq_or_lt_of_le inRange with rfl | later
  · rcases eq_or_lt_of_le counted with none | some
    · exact .inl ⟨rfl, none.symm⟩
    · exact .inr ⟨_, shown, by omega⟩
  · refine .inr ⟨_, shown, not_le.mp fun ended => ?_⟩
    have beyond := (total_le_iff sized (by omega)).mp ended
    omega

/-- The request for a page passes over what lies before its window, and asks for no more than the window holds. -/
theorem plan?_pageSteps (query : PageQuery) (populate : Option (List Relation)) (confined : Value) :
    ∃ plan size, FindRequest.plan? ⟨confined, pageSteps query populate⟩ = some plan ∧ plan.limit = some size ∧
      window query.limit query.page = Set.Ico (plan.skip : Int) (plan.skip + size) := by
  have paged := query.page_pos
  have sized := query.limit_pos
  have start : 0 ≤ (query.page - 1) * query.limit := Int.mul_nonneg (by omega) (by omega)
  have size : 0 ≤ query.limit := by omega
  refine ⟨⟨[], ((query.page - 1) * query.limit).toNat, some query.limit.toNat⟩, query.limit.toNat, ?_, rfl, ?_⟩
  · rw [FindRequest.plan?, pageSteps]
    simp [Plan.refine?, Plan.all, start, size]
  · simp only [Int.toNat_of_nonneg start, Int.toNat_of_nonneg size, window]
    congr 1
    ring

/-! ## The links of a result -/

/-- The links between the pages of a result, and what the pages show of it. -/
structure Linked (limit total last : Int) : Prop where
  walk : ∃ pages, (∀ others, PageWalk limit total 1 others ↔ others = pages) ∧ pages.Nodup ∧
    ∀ page, page ∈ pages ↔ 1 ≤ page ∧ page ≤ last
  ends : (paginate last limit total).next = none
  back (page next : Int) (inRange : 1 ≤ page) (leads : (paginate page limit total).next = some next) :
    (paginate next limit total).prev = some page
  forth (page : Int) (later : 2 ≤ page) (inside : page ≤ last) :
    (paginate page limit total).prev = some (page - 1) ∧ (paginate (page - 1) limit total).next = some page
  apart (page other : Int) (differ : page ≠ other) : Disjoint (window limit page) (window limit other)
  covered (index : Int) (inResult : 0 ≤ index) (below : index < total) :
    ∃ page, 1 ≤ page ∧ page ≤ last ∧ index ∈ window limit page
  filled (page : Int) (inRange : 1 ≤ page) (inside : page ≤ last) :
    page = 1 ∧ total = 0 ∨ ∃ index ∈ window limit page, index < total
  requested (query : PageQuery) (same : query.limit = limit) (populate : Option (List Relation))
    (confined : Value) :
    ∃ plan size, FindRequest.plan? ⟨confined, pageSteps query populate⟩ = some plan ∧ plan.limit = some size ∧
      window limit query.page = Set.Ico (plan.skip : Int) (plan.skip + size)

/-- The links lead from the first page through all pages that the documents fill, each once, and back, and the
windows of these pages part the documents. -/
theorem pages_linked (limit total : Int) (sized : 1 ≤ limit) (counted : 0 ≤ total) :
    Linked limit total (max 1 ⌈(total : ℚ) / limit⌉) where
  walk := by
    have some : 1 ≤ lastPage limit total := one_le_lastPage
    have inside : 1 + ((lastPage limit total - 1).toNat : Int) = lastPage limit total := by omega
    refine ⟨_, fun others => pageWalk_iff sized le_rfl inside, nodup_pagesFrom .., fun page => ?_⟩
    rw [mem_pagesFrom, ← lastPage]
    omega
  ends := by rw [← lastPage, next_eq sized one_le_lastPage, if_pos le_rfl]
  back page next inRange leads := by
    obtain ⟨-, rfl⟩ := (next_eq_some_iff sized inRange).mp leads
    rw [prev_eq (by omega), add_sub_cancel_right]
  forth page later inside := by
    rw [← lastPage] at inside
    refine ⟨prev_eq (by omega), (next_eq_some_iff sized (by omega)).mpr ?_⟩
    exact ⟨by omega, (sub_add_cancel page 1).symm⟩
  apart _ _ differ := disjoint_window sized differ
  covered _ inResult below := exists_window sized inResult below
  filled _ inRange inside := exists_index sized counted inRange inside
  requested query same populate confined := same ▸ plan?_pageSteps query populate confined

/-- A result that fills its last page, one with a document more, and one without documents. -/
theorem pages_linked_at_ends : Linked 10 100 10 ∧ Linked 10 101 11 ∧ Linked 10 0 1 := by
  have full := pages_linked 10 100 (by decide) (by decide)
  have more := pages_linked 10 101 (by decide) (by decide)
  have none := pages_linked 10 0 (by decide) (by decide)
  norm_num at full more none
  exact ⟨full, more, none⟩

end QueryGate.Collector
