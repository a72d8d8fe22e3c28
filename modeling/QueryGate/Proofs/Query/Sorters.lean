import QueryGate.Proofs.Query.Requests
/-!
What canonical queries are sorted by. An order that a query was made with is passed on as it is, and only a
sort text is vetted; a sort text that says nothing takes the place of a ready order all the same.
-/

namespace QueryGate.Query

open QueryGate.Filter

def sortedFields : Value → List Atom
  | .map entries => Entries.keys entries
  | _ => []

variable {registry : Registry} {depthLimit : Value}

private theorem sortedFields_toValue (order : SortOrder) : sortedFields order.toValue = Entries.keys order := by
  simp [sortedFields, SortOrder.toValue, Entries.keys]

/-- Whatever a sort value is read as, it names vetted fields only. -/
theorem sortKey_of_parseSort {sort : Value} {read : Option SortOrder}
    (parsed : parseSort registry sort = .ok read) :
    ∀ key ∈ sortedFields ((read.map SortOrder.toValue).getD .null), SortKey registry key := by
  obtain ⟨order, rfl, known⟩ := parseSort_ok parsed
  by_cases unsorted : order.isEmpty = true
  · rw [if_pos unsorted]
    simp [sortedFields]
  · rw [if_neg unsorted, Option.map_some, Option.getD_some, sortedFields_toValue]
    exact known

/-- A canonical query is sorted by vetted fields exactly if it had a sort text, which decides alone then, or
was made with an order of vetted fields, which stays as it is. -/
theorem canonical_sorted_by_vetted_iff (registry : Registry) (depthLimit : Value)
    (query canonical : PageQuery)
    (vetted : query.canonical registry depthLimit = .ok canonical) :
    (query.sort.isVacant = true → canonical.sorter = query.sorter) ∧
      (query.sort.isVacant = false → ∃ order, parseSort registry query.sort = .ok order ∧
        canonical.sorter = (order.map SortOrder.toValue).getD .null) ∧
      ((∀ key ∈ sortedFields canonical.sorter, SortKey registry key) ↔
        query.sort.isVacant = false ∨ ∀ key ∈ sortedFields query.sorter, SortKey registry key) := by
  have sorter := (canonical_ok vetted).sorter
  cases absent : query.sort.isVacant with
  | true =>
    rw [if_pos absent] at sorter
    exact ⟨fun _ => sorter, nofun, by simp [sorter]⟩
  | false =>
    rw [if_neg (Bool.eq_false_iff.mp absent)] at sorter
    obtain ⟨order, parsed, same⟩ := sorter
    have known : ∀ key ∈ sortedFields canonical.sorter, SortKey registry key := by
      rw [same]
      exact sortKey_of_parseSort parsed
    exact ⟨nofun, fun _ => ⟨order, parsed, same⟩, fun _ => .inl rfl, fun _ => known⟩

/-- A sort text decides against a ready order of a field that callers may not know. -/
theorem canonical_sorted_by_vetted_iff_both :
    let ready : Value := .map [(.text "internal", .text "asc")]
    let order : Value := .map [(.text "created_at", .text "desc"), (.text "_id", .text "asc")]
    let asked : PageQuery := ⟨.empty, .text "-created;;_id", ready, 3, 20, by decide, by decide⟩
    let canonical : PageQuery := ⟨.empty, .text "-created;;_id", order, 3, 20, by decide, by decide⟩
    asked.canonical Registry.ofFiles (.int 7) = .ok canonical ∧
      ∀ key ∈ sortedFields canonical.sorter, SortKey Registry.ofFiles key := by
  intro ready order asked canonical
  have vetted : asked.canonical Registry.ofFiles (.int 7) = .ok canonical := by rfl
  exact ⟨vetted, (canonical_sorted_by_vetted_iff _ _ _ _ vetted).2.2.mpr (.inl rfl)⟩

/-- A ready order of a field that callers may not know is passed on, though the field is refused in a sort
text. -/
theorem ready_order_unvetted :
    let asked : PageQuery :=
      ⟨.empty, .null, .map [(.text "internal", .text "asc")], 1, 10, by decide, by decide⟩
    asked.canonical Registry.ofFiles (.int 10) = .ok asked ∧
      .text "internal" ∈ sortedFields asked.sorter ∧ ¬SortKey Registry.ofFiles (.text "internal") ∧
      parseSort Registry.ofFiles (.text "internal") = .error (.unknownProperty "internal") := by
  intro asked
  have hidden : ¬SortKey Registry.ofFiles (.text "internal") := by
    rintro (identity | ⟨property, member, same⟩)
    · simp [Registry.ofFiles] at identity
    · simp only [Registry.filterable, Registry.ofFiles, List.mem_filter, List.mem_cons, List.not_mem_nil,
        or_false] at member
      obtain ⟨rfl | rfl | rfl, exposed⟩ := member
      · exact absurd same (by decide)
      · exact absurd same (by decide)
      · cases exposed
  exact ⟨rfl, List.mem_cons_self .., hidden, rfl⟩

end QueryGate.Query
