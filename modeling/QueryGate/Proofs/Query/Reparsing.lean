import QueryGate.Proofs.Filter.Reparsing
import QueryGate.Query.PageQuery
/-!
Canonical queries stay what they are. In a registry that keeps its names a filter that was parsed is parsed
to itself, and a query that was made canonical is canonical already: its sort text, which it keeps, says the
same once more.
-/

namespace QueryGate.Query

open QueryGate.Filter

private theorem atMost?_eq_false_of_above? {limit : Value} {bound : Int}
    (above : limit.above? bound = some true) : limit.atMost? bound = some false := by
  cases limit with
  | atom leaf =>
    cases leaf with
    | bool flag =>
      simp only [Value.above?, Atom.above?, Option.some.injEq, decide_eq_true_eq] at above
      simp only [Value.atMost?, Atom.atMost?, Option.some.injEq, decide_eq_false_iff_not]
      omega
    | int number =>
      simp only [Value.above?, Atom.above?, Option.some.injEq, decide_eq_true_eq] at above
      simp only [Value.atMost?, Atom.atMost?, Option.some.injEq, decide_eq_false_iff_not]
      omega
    | float number =>
      simp only [Value.above?, Atom.above?, Double.aboveInt, Option.some.injEq, Bool.and_eq_true,
        Bool.not_eq_true'] at above
      rw [Value.atMost?, Atom.atMost?, above.2]
    | _ => cases above
  | _ => cases above

private theorem canonical_again {registry : Registry} {limit : Value} {query canonical : PageQuery}
    (stable : ∀ filter stored, parse registry limit filter = .ok stored →
      parse registry limit stored = .ok stored)
    (vetted : query.canonical registry limit = .ok canonical) :
    canonical.canonical registry limit = .ok canonical := by
  rw [PageQuery.canonical] at vetted
  split at vetted
  next vacant =>
    obtain ⟨sorter, sorted, rest⟩ := Outcome.bind_eq_ok.mp vetted
    obtain ⟨filter, parsed, same⟩ := Outcome.bind_eq_ok.mp rest
    rw [← Except.ok.inj same, PageQuery.canonical, if_pos vacant]
    exact Outcome.bind_eq_ok.mpr ⟨sorter, rfl,
      Outcome.bind_eq_ok.mpr ⟨filter, stable _ _ parsed, rfl⟩⟩
  next stated =>
    obtain ⟨sorter, sorted, rest⟩ := Outcome.bind_eq_ok.mp vetted
    obtain ⟨filter, parsed, same⟩ := Outcome.bind_eq_ok.mp rest
    rw [← Except.ok.inj same, PageQuery.canonical, if_neg stated]
    exact Outcome.bind_eq_ok.mpr ⟨sorter, sorted,
      Outcome.bind_eq_ok.mpr ⟨filter, stable _ _ parsed, rfl⟩⟩

/-- With a depth limit above zero, parsing leaves parsed filters alone, and canonical queries are left
alone by being made canonical. -/
theorem canonical_idempotent (registry : Registry) (plain : registry.NamesFields)
    (keeps : registry.KeepsNames) (limit : Value) (positive : limit.above? 0 = some true) :
    (∀ filter canonical, parse registry limit filter = .ok canonical →
      parse registry limit canonical = .ok canonical) ∧
    ∀ query canonical : PageQuery, query.canonical registry limit = .ok canonical →
      canonical.canonical registry limit = .ok canonical := by
  have roomy := atMost?_eq_false_of_above? positive
  have stable : ∀ filter canonical, parse registry limit filter = .ok canonical →
      parse registry limit canonical = .ok canonical :=
    fun filter canonical parsed => parse_again plain keeps roomy parsed
  exact ⟨stable, fun query canonical vetted => canonical_again stable vetted⟩

/-- A date that was read stays, and so does an order that was read from a text. -/
theorem canonical_idempotent_dates :
    let day : Calendar.Moment := ⟨⟨2020, 1, 1, by decide⟩, .midnight, none⟩
    let sent : Value := .map [(.text "$nor", .list [
      .map [(.text "created", .map [(.text "$lt", .date day)])], .map [(.text "typeName", .null)]])]
    let stored : Value := .map [(.text "$nor", .list [
      .map [(.text "created_at", .map [(.text "$lt", .date day.inUniversalTime)])],
      .map [(.text "type_name", .null)]])]
    let order : Value := .map [(.text "created_at", .text "desc"), (.text "_id", .text "asc")]
    let asked : PageQuery := ⟨sent, .text "-created;_id", .null, 3, 20, by decide, by decide⟩
    let canonical : PageQuery := ⟨stored, .text "-created;_id", order, 3, 20, by decide, by decide⟩
    Registry.ofFiles.NamesFields ∧ Registry.ofFiles.KeepsNames ∧ (Value.int 7).above? 0 = some true ∧
      parse Registry.ofFiles (.int 7) sent = .ok stored ∧
      parse Registry.ofFiles (.int 7) stored = .ok stored ∧
      asked.canonical Registry.ofFiles (.int 7) = .ok canonical ∧
      canonical.canonical Registry.ofFiles (.int 7) = .ok canonical := by
  intro day sent stored order asked canonical
  have parsed : parse Registry.ofFiles (.int 7) sent = .ok stored :=
    parse_map_of_valid (by rfl) (by rfl) (by rfl)
  have vetted : asked.canonical Registry.ofFiles (.int 7) = .ok canonical := by
    rw [PageQuery.canonical, parsed]
    rfl
  obtain ⟨filters, queries⟩ := canonical_idempotent Registry.ofFiles Registry.ofFiles_namesFields
    Registry.ofFiles_keepsNames (.int 7) rfl
  exact ⟨Registry.ofFiles_namesFields, Registry.ofFiles_keepsNames, rfl, parsed, filters _ _ parsed,
    vetted, queries _ _ vetted⟩

end QueryGate.Query
