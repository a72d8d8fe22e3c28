import QueryGate.Proofs.Outcome
import QueryGate.Proofs.Registry.Names
import QueryGate.Proofs.Value.Entries
import QueryGate.Query.Sort
/-!
What documents can be sorted by. A sort order that was read holds canonical names of properties that
callers may filter on, and perhaps the identity field, and nothing else; an order without fields is none.
-/

namespace QueryGate.Query

open QueryGate.Filter

/-- A field that callers may sort by. -/
def SortKey (registry : Registry) (key : Atom) : Prop :=
  .atom key = registry.identityField ∨ ∃ property ∈ registry.filterable, property.canonicalName = key

variable {registry : Registry}

private theorem termField_sortKey {term : SortTerm} {field : Atom}
    (resolved : termField registry term = .ok field) : SortKey registry field := by
  rw [termField] at resolved
  split at resolved
  next identity =>
    have same := (Bool.and_eq_true_iff.mp identity).1
    rw [Registry.isIdentity] at same
    split at same
    next name declared =>
      rw [← Except.ok.inj resolved, ← beq_iff_eq.mp same]
      exact .inl declared.symm
    next => cases same
  next =>
    split at resolved
    next property found =>
      exact .inr ⟨property, Registry.mem_filterable_of_resolveFilterable found, Except.ok.inj resolved⟩
    next => cases resolved

private theorem addTerms_sortKeys {order result : SortOrder} {terms : List SortTerm}
    (known : ∀ key ∈ Entries.keys order, SortKey registry key)
    (added : addTerms registry order terms = .ok result) :
    ∀ key ∈ Entries.keys result, SortKey registry key := by
  induction terms generalizing order with
  | nil =>
    rw [← Except.ok.inj added]
    exact known
  | cons term terms ih =>
    rw [addTerms] at added
    obtain ⟨field, resolved, rest⟩ := Outcome.bind_eq_ok.mp added
    refine ih ?_ rest
    intro key present
    obtain ⟨entry, member, rfl⟩ := List.mem_map.mp present
    rcases Entries.mem_set member with kept | ⟨-, new | old⟩
    · exact known _ (List.mem_map_of_mem kept)
    · rw [new]
      exact termField_sortKey resolved
    · exact known _ old

/-- The order that comes of reading one, the order without fields if there is none. -/
theorem parseSort_ok {sort : Value} {read : Option SortOrder}
    (parsed : parseSort registry sort = .ok read) :
    ∃ order : SortOrder, read = (if order.isEmpty then none else some order) ∧
      ∀ key ∈ Entries.keys order, SortKey registry key := by
  have unsorted : ∀ key ∈ Entries.keys ([] : SortOrder), SortKey registry key := by simp [Entries.keys]
  unfold parseSort at parsed
  split at parsed
  next => exact ⟨[], (Except.ok.inj parsed).symm, unsorted⟩
  next =>
    split at parsed
    next chars =>
      obtain ⟨order, added, same⟩ := Outcome.bind_eq_ok.mp parsed
      exact ⟨order, (Except.ok.inj same).symm, addTerms_sortKeys unsorted added⟩
    next => cases parsed

end QueryGate.Query
