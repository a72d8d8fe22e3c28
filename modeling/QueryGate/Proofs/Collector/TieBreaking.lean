import QueryGate.Collector.Operations
import QueryGate.Proofs.Value.Entries
/-!
Sort orders with the identity field as the last resort. An order that was read goes to the model as it
is if it holds the identity field, and else with the identity field behind all others.
-/

namespace QueryGate.Collector

open QueryGate.Query

def tieBroken (identity : String) (order : SortOrder) : SortOrder :=
  if Entries.has order (.text identity) then order else order ++ [(.text identity, .ascending)]

variable {identity : String} {order : SortOrder}

theorem identity_mem_tieBroken (identity : String) (order : SortOrder) :
    .text identity ∈ Entries.keys (tieBroken identity order) := by
  rw [tieBroken]
  split
  next present => exact Entries.has_text_iff.mp present
  next => simp [Entries.keys]

theorem mem_keys_tieBroken {key : Atom} (present : key ∈ Entries.keys (tieBroken identity order)) :
    key = .text identity ∨ key ∈ Entries.keys order := by
  rw [tieBroken] at present
  split at present
  next => exact .inr present
  next =>
    simp only [Entries.keys, List.map_append, List.mem_append, List.map_cons, List.map_nil,
      List.mem_singleton] at present
    exact present.symm

theorem toValue_isVacant : order.toValue.isVacant = order.isEmpty := by
  cases order <;> rfl

private theorem has_toValue_entries :
    Entries.has (order.map fun entry => (entry.1, Value.text entry.2.name)) (.text identity) =
      Entries.has order (.text identity) := by
  rw [Entries.has, Entries.has, List.any_map]
  rfl

private theorem withTieBreak_map (identity : Atom) (keys : Entries) :
    withTieBreak (.atom identity) (.map keys) =
      .ok (.map (if Entries.has keys identity then keys
        else keys ++ [(identity, .text Direction.ascending.name)])) := by
  unfold withTieBreak
  rw [mentions]
  cases Entries.has keys identity with
  | true => rfl
  | false => rfl

private theorem withTieBreak_toValue (identity : String) (order : SortOrder) :
    withTieBreak (.text identity) order.toValue = .ok (tieBroken identity order).toValue := by
  rw [SortOrder.toValue, withTieBreak_map, has_toValue_entries, tieBroken, SortOrder.toValue]
  cases Entries.has order (.text identity) with
  | true => rfl
  | false =>
    simp only [Bool.false_eq_true, ↓reduceIte, List.map_append]
    rfl

theorem sortStep_toValue (identity : String) (order : SortOrder) :
    sortStep (.text identity) order.toValue = .ok (.sort (tieBroken identity order).toValue) := by
  rw [sortStep, withTieBreak_toValue]

end QueryGate.Collector
