import QueryGate.Filter.Operator
import QueryGate.Registry.Basic
/-!
The names of a registry. Whatever name a caller gives, a property that it resolves to is one of those
exposed, and is known by that name either publicly or canonically.
-/

namespace QueryGate.Registry

/-- Canonical names are texts that no one can take for an operator. -/
def NamesFields (registry : Registry) : Prop :=
  ∀ property ∈ registry.properties, ∃ name,
    property.canonicalName = .text name ∧ Filter.isOperatorKey name = false

variable {registry : Registry} {name : String} {property : Property}

theorem mem_of_lookup (found : registry.lookup name = some property) :
    property ∈ registry.properties :=
  List.mem_of_find?_eq_some found

private theorem mem_of_byCanonicalName (found : registry.byCanonicalName name = some property) :
    property ∈ registry.properties :=
  List.mem_reverse.mp (List.mem_of_find?_eq_some found)

theorem mem_of_resolve (found : registry.resolve name = some property) :
    property ∈ registry.properties := by
  rw [resolve, Option.or_eq_some_iff] at found
  rcases found with named | ⟨_, stored⟩
  · exact mem_of_lookup named
  · exact mem_of_byCanonicalName stored

theorem resolveFilterable_eq_some : registry.resolveFilterable name = some property ↔
    registry.resolve name = some property ∧ property.isFilterable = true := by
  rw [resolveFilterable, Option.filter_eq_some_iff]

theorem mem_filterable_of_resolveFilterable (found : registry.resolveFilterable name = some property) :
    property ∈ registry.filterable := by
  obtain ⟨resolved, exposed⟩ := resolveFilterable_eq_some.mp found
  exact List.mem_filter.mpr ⟨mem_of_resolve resolved, exposed⟩

theorem mem_properties_of_mem_filterable (member : property ∈ registry.filterable) :
    property ∈ registry.properties :=
  (List.mem_filter.mp member).1

/-- The canonical name of an exposed property leads to an exposed property of the same canonical name,
which is a date only if the first one is. -/
def KeepsNames (registry : Registry) : Prop :=
  ∀ property ∈ registry.filterable, ∃ name kept, property.canonicalName = .text name ∧
    registry.resolve name = some kept ∧ kept.isFilterable = true ∧
    kept.canonicalName = property.canonicalName ∧ (kept.isDate = true → property.isDate = true)

def ofFiles : Registry where
  entity := "files"
  identityField := .text "_id"
  properties := [⟨.text "typeName", .text "type_name", .plain, .bool true⟩,
    ⟨.text "created", .text "created_at", .date, .bool true⟩,
    ⟨.text "internal", .text "internal", .plain, .bool false⟩]

theorem ofFiles_namesFields : ofFiles.NamesFields := by
  intro property member
  simp only [ofFiles, List.mem_cons, List.not_mem_nil, or_false] at member
  rcases member with rfl | rfl | rfl
  · exact ⟨"type_name", rfl, by decide⟩
  · exact ⟨"created_at", rfl, by decide⟩
  · exact ⟨"internal", rfl, by decide⟩

theorem ofFiles_keepsNames : ofFiles.KeepsNames := by
  intro property member
  simp only [filterable, ofFiles, List.mem_filter, List.mem_cons, List.not_mem_nil, or_false] at member
  obtain ⟨rfl | rfl | rfl, exposed⟩ := member
  · exact ⟨"type_name", _, rfl, rfl, rfl, rfl, id⟩
  · exact ⟨"created_at", _, rfl, rfl, rfl, rfl, id⟩
  · cases exposed

end QueryGate.Registry
