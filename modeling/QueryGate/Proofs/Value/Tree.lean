import QueryGate.Proofs.Value.Entries
/-!
Values as trees. What holds of every leaf, and of a list or a map as soon as it holds of all that is in
it, holds of every value. The keys of a value are those of all maps in it, however deep they lie. A value
is one that a caller can send only if no map in it has a key twice.
-/

namespace QueryGate.Value

/-- Induction over the parts of a value. -/
@[elab_as_elim]
theorem treeInduction {motive : Value → Prop} (atom : ∀ leaf, motive (.atom leaf))
    (list : ∀ items, (∀ item ∈ items, motive item) → motive (.list items))
    (map : ∀ entries, (∀ entry ∈ entries, motive entry.2) → motive (.map entries)) :
    ∀ value, motive value
  | .atom leaf => atom leaf
  | .list items => list items fun item _ => treeInduction atom list map item
  | .map entries => map entries fun entry member =>
      have smaller : sizeOf entry.2 < sizeOf entries := by
        have inside := List.sizeOf_lt_of_mem member
        have part : sizeOf entry = 1 + sizeOf entry.1 + sizeOf entry.2 := rfl
        omega
      treeInduction atom list map entry.2
termination_by value => sizeOf value

mutual

def everyKey : Value → List Atom
  | .atom _ => []
  | .list items => everyKeyOfItems items
  | .map entries => everyKeyOfEntries entries

def everyKeyOfItems : List Value → List Atom
  | [] => []
  | item :: items => everyKey item ++ everyKeyOfItems items

def everyKeyOfEntries : List (Atom × Value) → List Atom
  | [] => []
  | (key, value) :: entries => key :: everyKey value ++ everyKeyOfEntries entries

end

@[simp]
theorem everyKey_atom (leaf : Atom) : (Value.atom leaf).everyKey = [] := by rw [everyKey]

theorem mem_everyKey_list {items : List Value} {key : Atom} :
    key ∈ (Value.list items).everyKey ↔ ∃ item ∈ items, key ∈ item.everyKey := by
  rw [everyKey]
  induction items with
  | nil => simp [everyKeyOfItems]
  | cons item items ih => simp [everyKeyOfItems, ih]

theorem mem_everyKey_map {entries : List (Atom × Value)} {key : Atom} :
    key ∈ (Value.map entries).everyKey ↔
      ∃ entry ∈ entries, key = entry.1 ∨ key ∈ entry.2.everyKey := by
  rw [everyKey]
  induction entries with
  | nil => simp [everyKeyOfEntries]
  | cons entry entries ih =>
    rcases entry with ⟨name, value⟩
    simp [everyKeyOfEntries, ih, or_assoc]

def HasTextKeys (value : Value) : Prop := ∀ key ∈ value.everyKey, ∃ name, key = .text name

theorem HasTextKeys.item {items : List Value} (texts : (Value.list items).HasTextKeys)
    {item : Value} (member : item ∈ items) : item.HasTextKeys :=
  fun key inside => texts key (mem_everyKey_list.mpr ⟨item, member, inside⟩)

theorem HasTextKeys.key {entries : List (Atom × Value)} (texts : (Value.map entries).HasTextKeys)
    {entry : Atom × Value} (member : entry ∈ entries) : ∃ name, entry.1 = .text name :=
  texts entry.1 (mem_everyKey_map.mpr ⟨entry, member, .inl rfl⟩)

theorem HasTextKeys.keys {entries : List (Atom × Value)} (texts : (Value.map entries).HasTextKeys) :
    ∀ key ∈ Entries.keys entries, ∃ name, key = .text name :=
  List.forall_mem_map.mpr fun _ member => texts.key member

theorem HasTextKeys.value {entries : List (Atom × Value)} (texts : (Value.map entries).HasTextKeys)
    {entry : Atom × Value} (member : entry ∈ entries) : entry.2.HasTextKeys :=
  fun key inside => texts key (mem_everyKey_map.mpr ⟨entry, member, .inr inside⟩)

/-- No map, however deep it lies, has a key twice. -/
inductive HasDistinctKeys : Value → Prop
  | atom (leaf : Atom) : HasDistinctKeys (.atom leaf)
  | list {items : List Value} (each : ∀ item ∈ items, HasDistinctKeys item) :
      HasDistinctKeys (.list items)
  | map {entries : Entries} (distinct : Entries.Distinct entries)
      (each : ∀ entry ∈ entries, HasDistinctKeys entry.2) : HasDistinctKeys (.map entries)

@[simp]
theorem hasDistinctKeys_atom (leaf : Atom) : (Value.atom leaf).HasDistinctKeys := .atom leaf

@[simp]
theorem hasDistinctKeys_list {items : List Value} :
    (Value.list items).HasDistinctKeys ↔ ∀ item ∈ items, item.HasDistinctKeys :=
  ⟨fun | .list each => each, .list⟩

@[simp]
theorem hasDistinctKeys_map {entries : Entries} :
    (Value.map entries).HasDistinctKeys ↔
      Entries.Distinct entries ∧ ∀ entry ∈ entries, entry.2.HasDistinctKeys :=
  ⟨fun | .map distinct each => ⟨distinct, each⟩, fun ⟨distinct, each⟩ => .map distinct each⟩

end QueryGate.Value
