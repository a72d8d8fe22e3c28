import Mathlib.Data.List.Perm.Basic
import QueryGate.Proofs.Pairs
import QueryGate.Proofs.Value.Tree
/-!
Values that differ in the order of entries only. Any order of the entries of maps, at any depth, is reached by
exchanging two neighbours in one map after another. Which neighbours these are is said by positions alone, so
the same exchanges can be made in another value of the same shape.
-/

namespace QueryGate.Value

/-- Values that differ only in the order that the entries of maps have, at any depth. -/
inductive Reordered : Value → Value → Prop
  | atom (leaf : Atom) : Reordered (.atom leaf) (.atom leaf)
  | list {items others : List Value} (pairs : List.Forall₂ Reordered items others) :
      Reordered (.list items) (.list others)
  | map {entries inner others : Entries} (keys : Entries.keys entries = Entries.keys inner)
      (values : List.Forall₂ (fun entry other => Reordered entry.2 other.2) entries inner)
      (moves : inner.Perm others) : Reordered (.map entries) (.map others)

def Mates (entry other : Atom × Value) : Prop := entry.1 = other.1 ∧ Reordered entry.2 other.2

theorem forall₂_mates_iff {entries others : Entries} :
    List.Forall₂ Mates entries others ↔ Entries.keys entries = Entries.keys others ∧
      List.Forall₂ (fun entry other => Reordered entry.2 other.2) entries others := by
  simp only [Entries.keys, ← List.forall₂_eq_eq_eq, List.forall₂_map_left_iff, List.forall₂_map_right_iff]
  exact forall₂_and

theorem reordered_map_iff {entries : Entries} {other : Value} :
    Reordered (.map entries) other ↔
      ∃ inner others, other = .map others ∧ List.Forall₂ Mates entries inner ∧ inner.Perm others := by
  constructor
  · intro reordered
    cases reordered with
    | map keys values moves => exact ⟨_, _, rfl, forall₂_mates_iff.mpr ⟨keys, values⟩, moves⟩
  · rintro ⟨inner, others, rfl, mated, moves⟩
    obtain ⟨keys, values⟩ := forall₂_mates_iff.mp mated
    exact .map keys values moves

theorem reordered_list_iff {items others : List Value} :
    Reordered (.list items) (.list others) ↔ List.Forall₂ Reordered items others :=
  ⟨fun | .list pairs => pairs, .list⟩

/-- What differs in its order only from entries that are made of items is made of the same items. -/
theorem reordered_made_iff {α : Type} {make : α → Atom × Value} {entries : Entries} {made : List α} :
    Reordered (.map entries) (.map (made.map make)) ↔
      ∃ inner, List.Forall₂ (fun entry item => Mates entry (make item)) entries inner ∧ inner.Perm made := by
  rw [reordered_map_iff]
  constructor
  · rintro ⟨inner, _, ⟨⟩, mated, moves⟩
    have sources : List.Forall₂ (fun entry item => entry = make item) (made.map make) made :=
      List.forall₂_map_left_iff.mpr (List.forall₂_same.mpr fun _ _ => rfl)
    obtain ⟨items, pairs, placed⟩ := List.perm_comp_forall₂ moves sources
    refine ⟨items, ?_, placed⟩
    exact forall₂_trans_of_mem mated pairs fun _ _ _ _ mates same => same ▸ mates
  · rintro ⟨inner, pairs, moves⟩
    exact ⟨inner.map make, _, rfl, List.forall₂_map_right_iff.mpr pairs, moves.map make⟩

theorem Reordered.symm {value other : Value} (reordered : Reordered value other) : Reordered other value := by
  induction value using treeInduction generalizing other with
  | atom leaf =>
    cases reordered
    exact .atom leaf
  | list items ih =>
    cases reordered with
    | list pairs => exact .list (forall₂_imp_of_mem pairs fun item member _ => ih item member).flip
  | map entries ih =>
    obtain ⟨inner, others, rfl, mated, moves⟩ := reordered_map_iff.mp reordered
    -- The way back undoes the order first and the values after it, so the two have to change places.
    have back : List.Forall₂ (fun entry other => Mates other entry) entries inner :=
      forall₂_imp_of_mem mated fun entry member other ⟨key, below⟩ => ⟨key.symm, ih entry member below⟩
    obtain ⟨outer, pairs, others⟩ := List.perm_comp_forall₂ moves.symm back.flip
    exact reordered_map_iff.mpr ⟨outer, entries, rfl, pairs, others⟩

theorem Reordered.perm_keys {entries others : Entries} (reordered : Reordered (.map entries) (.map others)) :
    (Entries.keys entries).Perm (Entries.keys others) := by
  cases reordered with
  | map keys values moves => exact keys ▸ moves.map Prod.fst

theorem Reordered.exists_entry {entries others : Entries} (reordered : Reordered (.map entries) (.map others))
    {other : Atom × Value} (member : other ∈ others) : ∃ entry ∈ entries, Mates entry other := by
  obtain ⟨inner, _, ⟨⟩, mated, moves⟩ := reordered_map_iff.mp reordered
  exact exists_source mated (moves.mem_iff.mpr member)

/-! ## Keys -/

theorem HasTextKeys.reordered {value other : Value} (texts : value.HasTextKeys)
    (reordered : Reordered value other) : other.HasTextKeys := by
  induction value using treeInduction generalizing other with
  | atom leaf =>
    cases reordered
    exact texts
  | list items ih =>
    cases reordered with
    | list pairs =>
      intro key member
      obtain ⟨other, inside, below⟩ := mem_everyKey_list.mp member
      obtain ⟨item, source, same⟩ := exists_source pairs inside
      exact ih item source (texts.item source) same key below
  | map entries ih =>
    obtain ⟨_, others, rfl, -, -⟩ := reordered_map_iff.mp reordered
    intro key member
    obtain ⟨other, inside, here⟩ := mem_everyKey_map.mp member
    obtain ⟨entry, source, same, below⟩ := reordered.exists_entry inside
    rcases here with rfl | deeper
    · exact same ▸ texts.key source
    · exact ih entry source (texts.value source) below key deeper

theorem HasDistinctKeys.reordered {value other : Value} (distinct : value.HasDistinctKeys)
    (texts : value.HasTextKeys) (reordered : Reordered value other) : other.HasDistinctKeys := by
  induction value using treeInduction generalizing other with
  | atom leaf =>
    cases reordered
    exact distinct
  | list items ih =>
    cases reordered with
    | list pairs =>
      refine .list fun other member => ?_
      obtain ⟨item, source, same⟩ := exists_source pairs member
      exact ih item source (hasDistinctKeys_list.mp distinct item source) (texts.item source) same
  | map entries ih =>
    obtain ⟨_, others, rfl, -, -⟩ := reordered_map_iff.mp reordered
    obtain ⟨apart, each⟩ := hasDistinctKeys_map.mp distinct
    refine .map ?_ fun other member => ?_
    · rw [Entries.distinct_iff_nodup (texts.reordered reordered).keys, ← reordered.perm_keys.nodup_iff,
        ← Entries.distinct_iff_nodup texts.keys]
      exact apart
    · obtain ⟨entry, source, -, below⟩ := reordered.exists_entry member
      exact ih entry source (each entry source) (texts.value source) below

/-! ## Exchanges -/

def exchange {α : Type} : Nat → List α → List α
  | 0, first :: second :: rest => second :: first :: rest
  | place + 1, first :: rest => first :: exchange place rest
  | _, items => items

def exchangeAt (place : Nat) : List Nat → Value → Value
  | _, .atom leaf => .atom leaf
  | [], .list items => .list items
  | [], .map entries => .map (exchange place entries)
  | position :: route, .list items => .list (items.modify position (exchangeAt place route))
  | position :: route, .map entries =>
    .map (entries.modify position fun entry => (entry.1, exchangeAt place route entry.2))

structure Exchange where
  route : List Nat
  place : Nat

def Exchange.make (value : Value) (exchange : Exchange) : Value :=
  value.exchangeAt exchange.place exchange.route

def reorder (exchanges : List Exchange) (value : Value) : Value := exchanges.foldl Exchange.make value

def Exchange.below (position : Nat) (exchange : Exchange) : Exchange :=
  { exchange with route := position :: exchange.route }

theorem reorder_append (first second : List Exchange) (value : Value) :
    reorder (first ++ second) value = reorder second (reorder first value) := List.foldl_append

theorem reorder_atom (exchanges : List Exchange) (leaf : Atom) :
    reorder exchanges (.atom leaf) = .atom leaf := by
  induction exchanges with
  | nil => rfl
  | cons exchange exchanges ih =>
    have unchanged : exchange.make (.atom leaf) = .atom leaf := by
      rw [Exchange.make]
      cases exchange.route <;> rfl
    rw [reorder, List.foldl_cons, unchanged]
    exact ih

theorem reorder_empty (exchanges : List Exchange) : reorder exchanges .empty = .empty := by
  induction exchanges with
  | nil => rfl
  | cons exchange exchanges ih =>
    have unchanged : exchange.make .empty = .empty := by
      rcases exchange with ⟨_ | ⟨position, route⟩, place⟩
      · cases place <;> rfl
      · cases position <;> rfl
    rw [reorder, List.foldl_cons, unchanged]
    exact ih

/-! ## Exchanges reach every order -/

theorem modify_at_length {α : Type} (change : α → α) (before after : List α) (item : α) :
    (before ++ item :: after).modify before.length change = before ++ change item :: after := by
  induction before with
  | nil => rfl
  | cons first before ih => simp [ih]

private theorem reorder_below_list (exchanges : List Exchange) (before after : List Value) (item : Value) :
    reorder (exchanges.map (.below before.length)) (.list (before ++ item :: after)) =
      .list (before ++ reorder exchanges item :: after) := by
  induction exchanges generalizing item with
  | nil => rfl
  | cons exchange exchanges ih =>
    rw [List.map_cons, reorder, List.foldl_cons, Exchange.make, Exchange.below, exchangeAt, modify_at_length]
    exact ih (exchange.make item)

private theorem reorder_below_map (exchanges : List Exchange) (before after : Entries) (entry : Atom × Value) :
    reorder (exchanges.map (.below before.length)) (.map (before ++ entry :: after)) =
      .map (before ++ (entry.1, reorder exchanges entry.2) :: after) := by
  induction exchanges generalizing entry with
  | nil => rfl
  | cons exchange exchanges ih =>
    rw [List.map_cons, reorder, List.foldl_cons, Exchange.make, Exchange.below, exchangeAt, modify_at_length]
    exact ih (entry.1, exchange.make entry.2)

private theorem exists_reorder_items {items others : List Value}
    (pairs : List.Forall₂ (fun item other => ∃ exchanges, reorder exchanges item = other) items others)
    (before : List Value) :
    ∃ exchanges, reorder exchanges (.list (before ++ items)) = .list (before ++ others) := by
  -- Routes count from the start of the list, so the items that are done stay in front of the others.
  induction pairs generalizing before with
  | nil => exact ⟨[], rfl⟩
  | @cons item _ items others here _ ih =>
    obtain ⟨first, rfl⟩ := here
    obtain ⟨later, rest⟩ := ih (before ++ [reorder first item])
    rw [List.append_assoc, List.append_assoc, List.singleton_append, List.singleton_append] at rest
    refine ⟨first.map (.below before.length) ++ later, ?_⟩
    rw [reorder_append, reorder_below_list, rest]

private theorem exists_reorder_values {entries inner : Entries}
    (pairs : List.Forall₂ (fun entry other => entry.1 = other.1 ∧
      ∃ exchanges, reorder exchanges entry.2 = other.2) entries inner) (before : Entries) :
    ∃ exchanges, reorder exchanges (.map (before ++ entries)) = .map (before ++ inner) := by
  induction pairs generalizing before with
  | nil => exact ⟨[], rfl⟩
  | @cons entry other entries inner here _ ih =>
    rcases other with ⟨key, value⟩
    obtain ⟨rfl, first, rfl⟩ := here
    obtain ⟨later, rest⟩ := ih (before ++ [(entry.1, reorder first entry.2)])
    rw [List.append_assoc, List.append_assoc, List.singleton_append, List.singleton_append] at rest
    refine ⟨first.map (.below before.length) ++ later, ?_⟩
    rw [reorder_append, reorder_below_map, rest]

private theorem exchanges_behind {α : Type} (places : List Nat) (first : α) (rest : List α) :
    (places.map Nat.succ).foldl (fun items place => exchange place items) (first :: rest) =
      first :: places.foldl (fun items place => exchange place items) rest := by
  induction places generalizing rest with
  | nil => rfl
  | cons place places ih => exact ih (exchange place rest)

/-- Every permutation is made of exchanges of neighbours. -/
theorem exists_exchanges {α : Type} {items others : List α} (moves : items.Perm others) :
    ∃ places : List Nat, places.foldl (fun items place => exchange place items) items = others := by
  induction moves with
  | nil => exact ⟨[], rfl⟩
  | cons first _ ih =>
    obtain ⟨places, rfl⟩ := ih
    exact ⟨places.map Nat.succ, exchanges_behind places first _⟩
  | swap first second rest => exact ⟨[0], rfl⟩
  | trans _ _ ih later =>
    obtain ⟨places, rfl⟩ := ih
    obtain ⟨others, rfl⟩ := later
    exact ⟨places ++ others, List.foldl_append⟩

private theorem exists_reorder_entries {entries others : Entries} (moves : entries.Perm others) :
    ∃ exchanges, reorder exchanges (.map entries) = .map others := by
  obtain ⟨places, rfl⟩ := exists_exchanges moves
  refine ⟨places.map fun place => ⟨[], place⟩, ?_⟩
  clear moves
  induction places generalizing entries with
  | nil => rfl
  | cons place places ih => exact ih

/-- A value that differs from another one in its order only is reached by exchanges. -/
theorem Reordered.exists_reorder {value other : Value} (reordered : Reordered value other) :
    ∃ exchanges, reorder exchanges value = other := by
  induction value using treeInduction generalizing other with
  | atom leaf =>
    cases reordered
    exact ⟨[], rfl⟩
  | list items ih =>
    cases reordered with
    | list pairs =>
      exact exists_reorder_items (forall₂_imp_of_mem pairs fun item member _ => ih item member) []
  | map entries ih =>
    obtain ⟨inner, others, rfl, mated, moves⟩ := reordered_map_iff.mp reordered
    obtain ⟨below, values⟩ := exists_reorder_values (forall₂_imp_of_mem mated
      fun entry member other ⟨key, same⟩ => ⟨key, ih entry member same⟩) []
    obtain ⟨here, order⟩ := exists_reorder_entries moves
    rw [List.nil_append, List.nil_append] at values
    exact ⟨below ++ here, by rw [reorder_append, values, order]⟩

/-! ## Exchanges make nothing but another order -/

theorem Reordered.refl (value : Value) : Reordered value value := by
  induction value using treeInduction with
  | atom leaf => exact .atom leaf
  | list items ih => exact .list (List.forall₂_same.mpr ih)
  | map entries ih => exact .map rfl (List.forall₂_same.mpr ih) (.refl entries)

theorem Reordered.trans {first second third : Value} (reordered : Reordered first second)
    (again : Reordered second third) : Reordered first third := by
  induction first using treeInduction generalizing second third with
  | atom leaf =>
    cases reordered
    exact again
  | list items ih =>
    cases reordered with
    | list pairs =>
      cases again with
      | list others =>
        exact .list (forall₂_trans_of_mem pairs others fun item member _ _ => ih item member)
  | map entries ih =>
    obtain ⟨inner, others, rfl, mated, moves⟩ := reordered_map_iff.mp reordered
    obtain ⟨outer, thirds, rfl, mates, placed⟩ := reordered_map_iff.mp again
    obtain ⟨middle, pairs, mixed⟩ := List.perm_comp_forall₂ moves mates
    refine reordered_map_iff.mpr ⟨middle, thirds, rfl, ?_, mixed.trans placed⟩
    exact forall₂_trans_of_mem mated pairs fun entry member _ _ ⟨key, below⟩ ⟨same, deeper⟩ =>
      ⟨key.trans same, ih entry member below deeper⟩

private theorem exchange_perm {α : Type} (place : Nat) (items : List α) : (exchange place items).Perm items := by
  induction place generalizing items with
  | zero =>
    match items with
    | [] | [_] => exact .refl _
    | first :: second :: rest => exact .swap first second rest
  | succ place ih =>
    cases items with
    | nil => exact .refl []
    | cons first rest => exact (ih rest).cons first

private theorem reordered_exchangeAt (place : Nat) (route : List Nat) (value : Value) :
    Reordered value (exchangeAt place route value) := by
  induction route generalizing value with
  | nil =>
    cases value with
    | atom leaf => exact .refl _
    | list items => exact .refl _
    | map entries =>
      exact .map rfl (List.forall₂_same.mpr fun entry _ => .refl entry.2) (exchange_perm place entries).symm
  | cons position route ih =>
    cases value with
    | atom leaf => exact .refl _
    | list items => exact .list (forall₂_modify items position .refl ih)
    | map entries =>
      refine reordered_map_iff.mpr ⟨_, _, rfl, ?_, .refl _⟩
      exact forall₂_modify entries position (fun entry => ⟨rfl, .refl entry.2⟩) fun entry => ⟨rfl, ih entry.2⟩

theorem reordered_reorder (exchanges : List Exchange) (value : Value) :
    Reordered value (reorder exchanges value) := by
  induction exchanges generalizing value with
  | nil => exact .refl value
  | cons exchange exchanges ih => exact (reordered_exchangeAt ..).trans (ih _)

end QueryGate.Value
