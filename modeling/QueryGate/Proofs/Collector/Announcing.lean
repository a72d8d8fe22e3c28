import QueryGate.Collector.Operations
import QueryGate.Proofs.Value.Writing
/-!
What the journal is told before documents are looked for. The page, its size, the order, the options and the
filter within its scope all go into one line, and a line with a number of too many digits in it cannot be
written. Then the operation ends before any call.
-/

namespace QueryGate.Collector

open QueryGate.Query

/-! ## Filters within a scope -/

variable {filter scope confined : Value}

theorem holdsOverlong_givenFilter : (givenFilter filter).HoldsOverlong ↔ filter.HoldsOverlong := by
  unfold givenFilter
  split
  next => simp [Value.holdsOverlong_map, Value.holdsOverlong_atom, Atom.IsOverlong]
  next => exact Iff.rfl

private theorem holdsOverlong_bothFilters {filter scope : Value} :
    (bothFilters filter scope).HoldsOverlong ↔ filter.HoldsOverlong ∨ scope.HoldsOverlong := by
  simp [bothFilters, Value.holdsOverlong_map, Value.holdsOverlong_list, Atom.not_isOverlong_text]

theorem holdsOverlong_scopedFilter (within : scopedFilter filter scope = .ok confined) :
    confined.HoldsOverlong ↔ filter.HoldsOverlong ∨ scope.HoldsOverlong := by
  unfold scopedFilter at within
  split at within
  next =>
    rw [← Except.ok.inj within, holdsOverlong_givenFilter]
    simp [Value.holdsOverlong_atom, Atom.IsOverlong]
  next =>
    rw [← Except.ok.inj within, holdsOverlong_givenFilter]
    simp [Value.holdsOverlong_map]
  next => rw [← Except.ok.inj within, holdsOverlong_bothFilters, holdsOverlong_givenFilter]
  next => cases within

/-! ## Pages -/

def PageOverlong (query : PageQuery) (scope : Value) : Prop :=
  Number.IsOverlong query.page ∨ Number.IsOverlong query.limit ∨ query.sorter.HoldsOverlong ∨
    query.filter.HoldsOverlong ∨ scope.HoldsOverlong

variable {collector : Collector} {query : PageQuery} {populate : Option (List Relation)}

theorem pageLine?_eq_none_iff (within : scopedFilter query.filter scope = .ok confined) :
    pageLine? query confined = none ↔ PageOverlong query scope := by
  have unsaid : pageLine? query confined = none ↔ Number.write? query.page = none ∨
      Number.write? query.limit = none ∨ query.sorter.plain? = none ∨ confined.plain? = none := by
    unfold pageLine?
    cases Number.write? query.page <;> cases Number.write? query.limit <;> cases query.sorter.plain? <;>
      cases confined.plain? <;> simp
  rw [unsaid, Number.write?_eq_none_iff, Number.write?_eq_none_iff, Value.plain?_eq_none_iff,
    Value.plain?_eq_none_iff, holdsOverlong_scopedFilter within, PageOverlong]

theorem find_of_overlong (within : scopedFilter query.filter scope = .ok confined)
    (overlong : PageOverlong query scope) : collector.find query scope populate = .refused .overlong := by
  simp only [find, withinScope, within, (pageLine?_eq_none_iff within).mpr overlong, announced]

theorem exists_pageLine (within : scopedFilter query.filter scope = .ok confined)
    (short : ¬PageOverlong query scope) : ∃ line, pageLine? query confined = some line :=
  Option.ne_none_iff_exists'.mp (mt (pageLine?_eq_none_iff within).mp short)

/-! ## All documents -/

def FindOptions.HasOverlong (options : FindOptions) : Prop :=
  options.limit.HoldsOverlong ∨ options.skip.HoldsOverlong ∨ options.sort.HoldsOverlong ∨
    options.select.HoldsOverlong

theorem FindOptions.literal?_eq_none_iff {options : FindOptions} :
    options.literal? = none ↔ options.HasOverlong := by
  have unsaid : options.literal? = none ↔ options.limit.literal? = none ∨ options.skip.literal? = none ∨
      options.sort.literal? = none ∨ options.select.literal? = none := by
    unfold FindOptions.literal?
    cases options.limit.literal? <;> cases options.skip.literal? <;> cases options.sort.literal? <;>
      cases options.select.literal? <;> simp
  simp only [unsaid, Value.literal?_eq_none_iff, HasOverlong]

def AllOverlong (filter scope : Value) (options : FindOptions) : Prop :=
  filter.HoldsOverlong ∨ scope.HoldsOverlong ∨ options.HasOverlong

variable {options : FindOptions}

theorem allLine?_eq_none_iff (within : scopedFilter filter scope = .ok confined) :
    allLine? confined options = none ↔ AllOverlong filter scope options := by
  have unsaid : allLine? confined options = none ↔ confined.plain? = none ∨ options.literal? = none := by
    unfold allLine?
    cases confined.plain? <;> cases options.literal? <;> simp
  rw [unsaid, Value.plain?_eq_none_iff, FindOptions.literal?_eq_none_iff, holdsOverlong_scopedFilter within,
    or_assoc, AllOverlong]

theorem findAll_of_overlong (within : scopedFilter filter scope = .ok confined)
    (overlong : AllOverlong filter scope options) :
    collector.findAll filter scope options = .refused .overlong := by
  simp only [findAll, withinScope, within, (allLine?_eq_none_iff within).mpr overlong, announced]

theorem exists_allLine (within : scopedFilter filter scope = .ok confined)
    (short : ¬AllOverlong filter scope options) : ∃ line, allLine? confined options = some line :=
  Option.ne_none_iff_exists'.mp (mt (allLine?_eq_none_iff within).mp short)

end QueryGate.Collector
