import QueryGate.Proofs.Filter.Rebuilding
import QueryGate.Proofs.Value.Tree
/-!
The allow-list. Whatever a caller sends, the keys of a parsed filter are allowed operators and canonical
names of properties that callers may filter on, at every depth and also where the grammar does not look;
and the names that the caller used all stand for such properties.
-/

namespace QueryGate.Filter

/-- A key that may reach the store. -/
def StoreKey (registry : Registry) (key : Atom) : Prop :=
  ∃ name, key = .text name ∧
    if isOperatorKey name then ∃ operator : Operator, operator.key = name
    else ∃ property ∈ registry.filterable, property.canonicalName = .text name

/-- A key that a caller may write. -/
def CallerKey (registry : Registry) (key : Atom) : Prop :=
  ∃ name, key = .text name ∧
    if isOperatorKey name then ∃ operator : Operator, operator.key = name
    else ∃ property, registry.resolve name = some property ∧ property.isFilterable = true

variable {registry : Registry} {limit : Value} {depth : Nat} {date : Option String}

theorem canonicalKey_allowed (plain : registry.NamesFields) {trail : Trail} {taken : List Atom}
    {key canonical : Atom} {below : Option String}
    (renamed : canonicalKey registry trail date taken key = .ok (canonical, below)) :
    StoreKey registry canonical ∧ CallerKey registry key := by
  rcases canonicalKey_ok renamed with ⟨operator, rfl, rfl, -⟩ | ⟨name, property, rfl, bare, found, rfl, -, -⟩
  · have sigilled := isOperatorKey_key operator
    exact ⟨⟨_, rfl, by rw [if_pos sigilled]; exact ⟨operator, rfl⟩⟩,
      ⟨_, rfl, by rw [if_pos sigilled]; exact ⟨operator, rfl⟩⟩⟩
  · have exposed := Registry.mem_filterable_of_resolveFilterable found
    obtain ⟨field, named, unsigilled⟩ :=
      plain property (Registry.mem_properties_of_mem_filterable exposed)
    constructor
    · refine ⟨field, named, ?_⟩
      rw [unsigilled]
      exact ⟨property, exposed, named⟩
    · refine ⟨name, rfl, ?_⟩
      rw [bare]
      exact ⟨property, Registry.resolveFilterable_eq_some.mp found⟩

theorem rebuilt_keys_allowed (plain : registry.NamesFields) (item : Value) {result : Value}
    (rebuilt : RebuiltFrom registry limit depth date item result) :
    (∀ key ∈ result.everyKey, StoreKey registry key) ∧
      ∀ key ∈ item.everyKey, CallerKey registry key := by
  induction item using Value.treeInduction generalizing depth date result with
  | atom leaf =>
    obtain ⟨trail, rebuilt⟩ := rebuilt
    rw [canonicalNode] at rebuilt
    rcases canonicalLeaf_ok rebuilt with ⟨-, rfl⟩ | ⟨moment, -, rfl⟩
    · simp
    · cases moment <;> simp [Value.ofMoment?]
  | list items ih =>
    obtain ⟨trail, rebuilt⟩ := rebuilt
    obtain ⟨others, walked, rfl⟩ := canonicalNode_list_ok rebuilt
    have pairs := canonicalItems_ok walked
    constructor
    · intro key present
      obtain ⟨other, inside, below⟩ := Value.mem_everyKey_list.mp present
      obtain ⟨item, member, source⟩ := exists_source pairs inside
      exact (ih item member source).1 key below
    · intro key present
      obtain ⟨item, member, below⟩ := Value.mem_everyKey_list.mp present
      obtain ⟨other, -, source⟩ := exists_result pairs member
      exact (ih item member source).2 key below
  | map entries ih =>
    obtain ⟨trail, rebuilt⟩ := rebuilt
    obtain ⟨settings, walked, rfl⟩ := canonicalNode_map_ok rebuilt
    have pairs := canonicalEntries_ok walked
    constructor
    · intro key present
      obtain ⟨entry, inside, here | below⟩ := Value.mem_everyKey_map.mp present
      · obtain ⟨setting, member, same⟩ := List.mem_map.mp (Entries.key_mem_of_mem_ofSettings inside)
        obtain ⟨source, -, _, _, _, renamed, -⟩ := exists_source pairs member
        rw [here, ← same]
        exact (canonicalKey_allowed plain renamed).1
      · obtain ⟨setting, member, same⟩ := Entries.exists_value_of_mem_ofSettings inside
        obtain ⟨source, origin, _, _, _, -, value⟩ := exists_source pairs member
        exact (ih source origin value).1 key (same ▸ below)
    · intro key present
      obtain ⟨entry, member, here | below⟩ := Value.mem_everyKey_map.mp present
      · obtain ⟨setting, -, _, _, _, renamed, -⟩ := exists_result pairs member
        rw [here]
        exact (canonicalKey_allowed plain renamed).2
      · obtain ⟨setting, -, _, _, _, -, value⟩ := exists_result pairs member
        exact (ih entry member value).2 key below

/-- Allowed operators and canonical names of exposed properties are the only keys of a parsed filter, and
every name in what the caller sent stands for an exposed property. -/
theorem parse_keys_allowed (registry : Registry) (plain : registry.NamesFields) (depthLimit : Int)
    (filter canonical : Value) (parsed : parse registry (.int depthLimit) filter = .ok canonical) :
    (∀ key ∈ canonical.everyKey, StoreKey registry key) ∧
      ∀ key ∈ filter.everyKey, CallerKey registry key := by
  rcases (parse_ok parsed).1 with ⟨rfl, rfl⟩ | rebuilt
  · simp [Value.everyKey, Value.everyKeyOfEntries]
  · exact rebuilt_keys_allowed plain filter rebuilt

/-- Names are vetted in an operand that the grammar takes as it is. -/
theorem parse_keys_allowed_in_operand :
    let sent : Value := .map [(.text "$or", .list [.map [(.text "typeName",
      .map [(.text "$gt", .map [(.text "created", .text "null")])])]])]
    let stored : Value := .map [(.text "$or", .list [.map [(.text "type_name",
      .map [(.text "$gt", .map [(.text "created_at", .null)])])]])]
    Registry.ofFiles.NamesFields ∧ parse Registry.ofFiles (.int 7) sent = .ok stored ∧
      (∀ key ∈ stored.everyKey, StoreKey Registry.ofFiles key) ∧
      ∀ key ∈ sent.everyKey, CallerKey Registry.ofFiles key := by
  intro sent stored
  have parsed : parse Registry.ofFiles (.int 7) sent = .ok stored :=
    parse_map_of_valid (by rfl) (by rfl) (by rfl)
  exact ⟨Registry.ofFiles_namesFields, parsed,
    parse_keys_allowed Registry.ofFiles Registry.ofFiles_namesFields 7 sent stored parsed⟩

end QueryGate.Filter
