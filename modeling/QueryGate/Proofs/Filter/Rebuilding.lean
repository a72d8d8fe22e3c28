import QueryGate.Filter.Canonical
import QueryGate.Proofs.Outcome
import QueryGate.Proofs.Pairs
import QueryGate.Proofs.Registry.Names
import QueryGate.Proofs.Value.Entries
/-!
What the rebuilding of a filter leaves when it succeeds: a leaf for every leaf, an item for every item of
a list, and an entry for every entry of a map, whose key is either an allowed operator that stays or the
name of a property that becomes canonical. Settings that share a key are one entry of the map.
-/

namespace QueryGate.Filter

variable {registry : Registry} {limit : Value} {depth : Nat} {trail : Trail} {date : Option String}

theorem canonicalLeaf_ok {leaf : Atom} {result : Value}
    (rebuilt : canonicalLeaf date trail leaf = .ok result) :
    date = none ∧ result = .atom leaf ∨
      ∃ moment, (Value.atom leaf).toMoment? = .ok moment ∧ result = Value.ofMoment? moment := by
  cases date with
  | none => exact .inl ⟨rfl, (Except.ok.inj rebuilt).symm⟩
  | some name =>
    rw [canonicalLeaf, canonicalDate] at rebuilt
    split at rebuilt
    next moment read => exact .inr ⟨moment, read, (Except.ok.inj rebuilt).symm⟩
    next cause refused => cases rebuilt

/-- What a key becomes: an operator stays, the name of a property becomes canonical and new. -/
theorem canonicalKey_ok {taken : List Atom} {key canonical : Atom} {below : Option String}
    (renamed : canonicalKey registry trail date taken key = .ok (canonical, below)) :
    (∃ operator : Operator, key = .text operator.key ∧ canonical = key ∧
      below = dateBelow operator date) ∨
    ∃ name property, key = .text name ∧ isOperatorKey name = false ∧
      registry.resolveFilterable name = some property ∧ canonical = property.canonicalName ∧
      (taken.any fun earlier => earlier.sameKey canonical) = false ∧
      below = if property.isDate then some name else none := by
  cases key with
  | text name =>
    rw [canonicalKey] at renamed
    by_cases sigilled : isOperatorKey name = true
    · rw [if_pos sigilled] at renamed
      split at renamed
      next => cases renamed
      next operator found =>
        obtain ⟨rfl, rfl⟩ := Prod.mk.inj (Except.ok.inj renamed)
        exact .inl ⟨operator, by rw [Operator.key_of_ofKey? found], rfl, rfl⟩
    · rw [if_neg sigilled] at renamed
      split at renamed
      next => cases renamed
      next property found =>
        split at renamed
        next => cases renamed
        next =>
          split at renamed
          next => cases renamed
          next fresh =>
            obtain ⟨rfl, rfl⟩ := Prod.mk.inj (Except.ok.inj renamed)
            exact .inr ⟨name, property, rfl, by simpa using sigilled, found, rfl, by simpa using fresh, rfl⟩
  | _ => cases renamed

theorem canonicalNode_list_ok {items : List Value} {result : Value}
    (rebuilt : canonicalNode registry limit depth trail date (.list items) = .ok result) :
    ∃ others, canonicalItems registry limit (depth + 1) trail date 0 items = .ok others ∧
      result = .list others := by
  rw [canonicalNode] at rebuilt
  obtain ⟨_, _, rest⟩ := Outcome.bind_eq_ok.mp rebuilt
  obtain ⟨others, walked, same⟩ := Outcome.bind_eq_ok.mp rest
  exact ⟨others, walked, (Except.ok.inj same).symm⟩

theorem canonicalNode_map_ok {entries : List (Atom × Value)} {result : Value}
    (rebuilt : canonicalNode registry limit depth trail date (.map entries) = .ok result) :
    ∃ settings, canonicalEntries registry limit (depth + 1) trail date [] entries = .ok settings ∧
      result = .map (Entries.ofSettings settings) := by
  rw [canonicalNode] at rebuilt
  obtain ⟨_, _, rest⟩ := Outcome.bind_eq_ok.mp rebuilt
  obtain ⟨settings, walked, same⟩ := Outcome.bind_eq_ok.mp rest
  exact ⟨settings, walked, (Except.ok.inj same).symm⟩

/-! ## Lists and maps -/

/-- A node that was rebuilt, wherever it lies. -/
def RebuiltFrom (registry : Registry) (limit : Value) (depth : Nat) (date : Option String)
    (item result : Value) : Prop :=
  ∃ trail, canonicalNode registry limit depth trail date item = .ok result

/-- An entry that was rebuilt: its key became canonical and its value was rebuilt below that key. -/
def EntryRebuiltFrom (registry : Registry) (limit : Value) (depth : Nat) (date : Option String)
    (entry setting : Atom × Value) : Prop :=
  ∃ trail taken below, canonicalKey registry trail date taken entry.1 = .ok (setting.1, below) ∧
    RebuiltFrom registry limit depth below entry.2 setting.2

theorem canonicalItems_ok {index : Nat} {items others : List Value}
    (rebuilt : canonicalItems registry limit depth trail date index items = .ok others) :
    List.Forall₂ (RebuiltFrom registry limit depth date) items others := by
  induction items generalizing index others with
  | nil =>
    rw [canonicalItems] at rebuilt
    rw [← Except.ok.inj rebuilt]
    exact .nil
  | cons item items ih =>
    rw [canonicalItems] at rebuilt
    obtain ⟨first, here, rest⟩ := Outcome.bind_eq_ok.mp rebuilt
    obtain ⟨later, walked, same⟩ := Outcome.bind_eq_ok.mp rest
    rw [← Except.ok.inj same]
    exact .cons ⟨_, here⟩ (ih walked)

theorem canonicalEntries_ok {taken : List Atom} {entries settings : List (Atom × Value)}
    (rebuilt : canonicalEntries registry limit depth trail date taken entries = .ok settings) :
    List.Forall₂ (EntryRebuiltFrom registry limit depth date) entries settings := by
  induction entries generalizing taken settings with
  | nil =>
    rw [canonicalEntries] at rebuilt
    rw [← Except.ok.inj rebuilt]
    exact .nil
  | cons entry entries ih =>
    rcases entry with ⟨key, item⟩
    rw [canonicalEntries] at rebuilt
    obtain ⟨⟨canonical, below⟩, renamed, rest⟩ := Outcome.bind_eq_ok.mp rebuilt
    obtain ⟨first, here, rest⟩ := Outcome.bind_eq_ok.mp rest
    obtain ⟨later, walked, same⟩ := Outcome.bind_eq_ok.mp rest
    rw [← Except.ok.inj same]
    exact .cons ⟨trail, taken, below, renamed, _, here⟩ (ih walked)

/-! ## Whole filters -/

/-- A filter that is parsed was rebuilt, and what it became has no conditions or is a clause. -/
theorem parse_ok {filter canonical : Value} (parsed : parse registry limit filter = .ok canonical) :
    (filter = .null ∧ canonical = .empty ∨ RebuiltFrom registry limit 0 none filter canonical) ∧
      (canonical = .empty ∨ validate canonical = .ok ()) := by
  rw [parse.eq_def] at parsed
  split at parsed
  next =>
    have same := Except.ok.inj parsed
    exact ⟨.inl ⟨rfl, same.symm⟩, .inl same.symm⟩
  next entries =>
    obtain ⟨rebuilt, walked, rest⟩ := Outcome.bind_eq_ok.mp parsed
    obtain ⟨settings, _, shape⟩ := canonicalNode_map_ok walked
    by_cases vacant : rebuilt.isVacant = true
    · rw [if_pos vacant] at rest
      have unconditional : rebuilt = .empty := by
        rw [shape, Value.isVacant, List.isEmpty_iff] at vacant
        rw [shape, vacant]
      rw [unconditional] at walked
      rw [← Except.ok.inj rest]
      exact ⟨.inr ⟨[], walked⟩, .inl rfl⟩
    · rw [if_neg vacant] at rest
      obtain ⟨_, valid, same⟩ := Outcome.bind_eq_ok.mp rest
      rw [← Except.ok.inj same]
      exact ⟨.inr ⟨[], walked⟩, .inr valid⟩
  next => cases parsed

theorem parse_valid {filter canonical : Value}
    (parsed : parse registry limit filter = .ok canonical) : validate canonical = .ok () := by
  rcases (parse_ok parsed).2 with rfl | valid
  · rfl
  · exact valid

/-- A map is parsed to what it is rebuilt to, if the grammar admits that. -/
theorem parse_map_eq_ok_iff {entries : List (Atom × Value)} {canonical : Value} :
    parse registry limit (.map entries) = .ok canonical ↔
      canonicalNode registry limit 0 [] none (.map entries) = .ok canonical ∧
        validate canonical = .ok () := by
  constructor
  · intro parsed
    refine ⟨?_, parse_valid parsed⟩
    rw [parse] at parsed
    obtain ⟨rebuilt, walked, rest⟩ := Outcome.bind_eq_ok.mp parsed
    obtain ⟨settings, -, shape⟩ := canonicalNode_map_ok walked
    split at rest
    next vacant =>
      rw [shape, Value.isVacant, List.isEmpty_iff] at vacant
      rw [walked, shape, vacant]
      exact rest
    next =>
      obtain ⟨_, -, same⟩ := Outcome.bind_eq_ok.mp rest
      rw [walked]
      exact same
  · rintro ⟨walked, valid⟩
    obtain ⟨settings, -, shape⟩ := canonicalNode_map_ok walked
    rw [parse, walked]
    refine Outcome.bind_eq_ok.mpr ⟨canonical, rfl, ?_⟩
    split
    next vacant =>
      rw [shape, Value.isVacant, List.isEmpty_iff] at vacant
      rw [shape, vacant]
    next => exact Outcome.bind_eq_ok.mpr ⟨(), valid, rfl⟩

theorem parse_ne_null {filter canonical : Value}
    (parsed : parse registry limit filter = .ok canonical) : canonical ≠ .null := by
  rintro rfl
  cases parse_valid parsed

theorem parse_map_of_valid {entries : List (Atom × Value)} {canonical : Value}
    (rebuilt : canonicalNode registry limit 0 [] none (.map entries) = .ok canonical)
    (conditions : canonical.isVacant = false) (valid : validate canonical = .ok ()) :
    parse registry limit (.map entries) = .ok canonical := by
  rw [parse, rebuilt]
  simp only [bind, Except.bind, conditions, valid, Bool.false_eq_true, ↓reduceIte]

/-! ## Two walks -/

section Walks

variable {other : Registry} {second : Value}

theorem canonicalItems_congr (change : Value → Value) {items : List Value}
    (alike : ∀ item ∈ items, ∀ trail, canonicalNode other second depth trail date (change item) =
      canonicalNode registry limit depth trail date item) (index : Nat) :
    canonicalItems other second depth trail date index (items.map change) =
      canonicalItems registry limit depth trail date index items := by
  induction items generalizing index with
  | nil => rfl
  | cons item items ih =>
    have later := ih (fun item member => alike item (List.mem_cons_of_mem _ member)) (index + 1)
    rw [List.map_cons, canonicalItems, canonicalItems, alike item (List.mem_cons_self ..), later]

theorem canonicalEntries_congr (change : Value → Value) {entries : Entries}
    (renamed : ∀ entry ∈ entries, ∀ taken, canonicalKey other trail date taken entry.1 =
      canonicalKey registry trail date taken entry.1)
    (alike : ∀ entry ∈ entries, ∀ trail date,
      canonicalNode other second depth trail date (change entry.2) =
        canonicalNode registry limit depth trail date entry.2) (taken : List Atom) :
    canonicalEntries other second depth trail date taken
        (entries.map fun entry => (entry.1, change entry.2)) =
      canonicalEntries registry limit depth trail date taken entries := by
  induction entries generalizing taken with
  | nil => rfl
  | cons entry entries ih =>
    rcases entry with ⟨key, item⟩
    rw [List.forall_mem_cons] at renamed alike
    have later := ih renamed.2 alike.2
    simp only [List.map_cons, canonicalEntries, renamed.1, alike.1, later]

theorem canonicalItems_same {items : List Value}
    (alike : ∀ item ∈ items, ∀ trail, canonicalNode other second depth trail date item =
      canonicalNode registry limit depth trail date item) (index : Nat) :
    canonicalItems other second depth trail date index items =
      canonicalItems registry limit depth trail date index items := by
  rw [← canonicalItems_congr id alike, List.map_id]

theorem canonicalEntries_same {entries : Entries}
    (renamed : ∀ entry ∈ entries, ∀ taken, canonicalKey other trail date taken entry.1 =
      canonicalKey registry trail date taken entry.1)
    (alike : ∀ entry ∈ entries, ∀ trail date, canonicalNode other second depth trail date entry.2 =
      canonicalNode registry limit depth trail date entry.2) (taken : List Atom) :
    canonicalEntries other second depth trail date taken entries =
      canonicalEntries registry limit depth trail date taken entries := by
  rw [← canonicalEntries_congr id renamed alike]
  exact congrArg _ (List.map_id entries).symm

end Walks

end QueryGate.Filter
