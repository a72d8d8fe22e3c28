import Mathlib.Data.List.Basic
import QueryGate.Proofs.Value.Tree
/-!
Values by their depth. A part of a value is reached by a route of positions, as long as there are containers
around the part. Down to a level a value is seen without the contents of the containers there, so replacing
one of them, or any part of one, by another container is not seen. The nesting of a value is the length of
its longest chain of containers.
-/

namespace QueryGate.Value

/-! ## Parts -/

def parts : Value → List Value
  | .atom _ => []
  | .list items => items
  | .map entries => entries.map Prod.snd

def partAt? : List Nat → Value → Option Value
  | [], value => some value
  | position :: route, value => value.parts[position]?.bind (partAt? route)

def replaceAt (part : Value) : List Nat → Value → Value
  | [], _ => part
  | _ :: _, .atom leaf => .atom leaf
  | position :: route, .list items => .list (items.modify position (replaceAt part route))
  | position :: route, .map entries =>
    .map (entries.modify position fun entry => (entry.1, replaceAt part route entry.2))

/-- What is seen of a value down to a level. -/
def cutAt : Nat → Value → Value
  | _, .atom leaf => .atom leaf
  | 0, .list _ | 0, .map _ => .list []
  | level + 1, .list items => .list (items.map (cutAt level))
  | level + 1, .map entries => .map (entries.map fun entry => (entry.1, cutAt level entry.2))

theorem cutAt_zero {value : Value} (container : value.isContainer = true) : value.cutAt 0 = .list [] := by
  cases value with
  | atom leaf => cases container
  | list items => rfl
  | map entries => rfl

theorem map_modify_of_seen {α β : Type} {seen : α → β} {change : α → α} {items : List α} {position : Nat}
    (unseen : ∀ item, items[position]? = some item → seen (change item) = seen item) :
    (items.modify position change).map seen = items.map seen := by
  apply List.ext_getElem?
  intro index
  rw [List.getElem?_map, List.getElem?_map, List.getElem?_modify]
  by_cases here : position = index
  · subst here
    cases found : items[position]? with
    | none => rfl
    | some item => simp [unseen item found]
  · simp [here]

/-- A container below a level is not seen, whatever stands there. -/
theorem cutAt_replaceAt {part old : Value} (container : part.isContainer = true)
    (replaced : old.isContainer = true) {route : List Nat} {value : Value}
    (found : value.partAt? route = some old) {level : Nat} (deep : level ≤ route.length) :
    (replaceAt part route value).cutAt level = value.cutAt level := by
  -- The induction is on the route: with every step the level goes down by one, and it reaches zero on the
  -- way, or at the end of it.
  induction route generalizing value level with
  | nil =>
    obtain rfl := Option.some.inj found
    obtain rfl : level = 0 := Nat.le_zero.mp deep
    rw [replaceAt, cutAt_zero container, cutAt_zero replaced]
  | cons position route ih =>
    obtain ⟨inner, here, below⟩ := Option.bind_eq_some_iff.mp found
    cases level with
    | zero => cases value <;> rfl
    | succ level =>
      have shallower : level ≤ route.length := Nat.le_of_succ_le_succ deep
      cases value with
      | atom leaf => rfl
      | list items =>
        rw [replaceAt, cutAt, cutAt]
        congr 1
        apply map_modify_of_seen
        intro item same
        obtain rfl := Option.some.inj (here.symm.trans same)
        exact ih below shallower
      | map entries =>
        rw [replaceAt, cutAt, cutAt]
        congr 1
        apply map_modify_of_seen
        intro entry same
        have inside : entry.2 = inner := by
          rw [parts, List.getElem?_map, same] at here
          exact Option.some.inj here
        rw [ih (inside ▸ below) shallower]

/-! ## Nesting -/

mutual

def nesting : Value → Nat
  | .atom _ => 0
  | .list items => nestingOfItems items + 1
  | .map entries => nestingOfEntries entries + 1

def nestingOfItems : List Value → Nat
  | [] => 0
  | item :: items => max (nesting item) (nestingOfItems items)

def nestingOfEntries : List (Atom × Value) → Nat
  | [] => 0
  | (_, value) :: entries => max (nesting value) (nestingOfEntries entries)

end

theorem nesting_list_le_iff {items : List Value} {bound : Nat} :
    (Value.list items).nesting ≤ bound ↔ 0 < bound ∧ ∀ item ∈ items, item.nesting < bound := by
  rw [nesting]
  induction items with
  | nil => simp [nestingOfItems, Nat.succ_le_iff]
  | cons item items ih =>
    have both : max item.nesting (nestingOfItems items) + 1 ≤ bound ↔
        item.nesting < bound ∧ nestingOfItems items + 1 ≤ bound := Nat.max_lt
    rw [nestingOfItems, List.forall_mem_cons, both, ih]
    exact and_left_comm

theorem nesting_map_le_iff {entries : Entries} {bound : Nat} :
    (Value.map entries).nesting ≤ bound ↔ 0 < bound ∧ ∀ entry ∈ entries, entry.2.nesting < bound := by
  rw [nesting]
  induction entries with
  | nil => simp [nestingOfEntries, Nat.succ_le_iff]
  | cons entry entries ih =>
    rcases entry with ⟨key, value⟩
    have both : max value.nesting (nestingOfEntries entries) + 1 ≤ bound ↔
        value.nesting < bound ∧ nestingOfEntries entries + 1 ≤ bound := Nat.max_lt
    rw [nestingOfEntries, List.forall_mem_cons, both, ih]
    exact and_left_comm

theorem nesting_item_lt {items : List Value} {item : Value} (member : item ∈ items) :
    item.nesting < (Value.list items).nesting :=
  (nesting_list_le_iff.mp (Nat.le_refl _)).2 item member

theorem nesting_value_lt {entries : Entries} {entry : Atom × Value} (member : entry ∈ entries) :
    entry.2.nesting < (Value.map entries).nesting :=
  (nesting_map_le_iff.mp (Nat.le_refl _)).2 entry member

end QueryGate.Value
