import QueryGate.Proofs.Filter.Rewriting
import QueryGate.Proofs.Value.Reordering
/-!
The order of entries in a filter. Storing a filter moves nothing, the grammar looks at all entries of a map
alike, and though the walk compares each key with those before it, it finds no violation exactly if the keys
are allowed one by one and stored under keys that all differ. So a filter is parsed in every order of its
entries or in none.
-/

namespace QueryGate.Filter

open Value (reorder exchange exchangeAt)

variable {registry : Registry} {limit : Value}

/-! ## Images -/

private theorem map_exchange {α β : Type} (change : α → β) (place : Nat) (items : List α) :
    (exchange place items).map change = exchange place (items.map change) := by
  induction place generalizing items with
  | zero =>
    match items with
    | [] | [_] | _ :: _ :: _ => rfl
  | succ place ih =>
    cases items with
    | nil => rfl
    | cons first rest => exact congrArg _ (ih rest)

theorem map_modify {α β : Type} {change : α → β} {inner : α → α} {outer : β → β}
    (same : ∀ item, change (inner item) = outer (change item)) (items : List α) (position : Nat) :
    (items.modify position inner).map change = (items.map change).modify position outer := by
  induction items generalizing position with
  | nil => simp
  | cons item items ih => cases position <;> simp [same, ih]

theorem exchangeAt_storedLeaf (place : Nat) (route : List Nat) (keys : List Atom) (leaf : Atom) :
    exchangeAt place route (storedLeaf registry keys leaf) = storedLeaf registry keys leaf := by
  obtain ⟨stored, same⟩ : ∃ stored, storedLeaf registry keys leaf = .atom stored := storedLeaf_eq_atom leaf
  rw [same]
  cases route <;> rfl

/-- Entries stay where they are when a filter is stored, so it does not matter whether they are exchanged
before or after. -/
theorem image_exchangeAt (place : Nat) (route : List Nat) (value : Value) (keys : List Atom) :
    image registry keys (exchangeAt place route value) =
      exchangeAt place route (image registry keys value) := by
  induction route generalizing value keys with
  | nil =>
    cases value with
    | atom leaf => exact (exchangeAt_storedLeaf ..).symm
    | list items => rfl
    | map entries => simp only [exchangeAt, image, imageOfEntries_eq_map, map_exchange]
  | cons position route ih =>
    cases value with
    | atom leaf => exact (exchangeAt_storedLeaf ..).symm
    | list items =>
      simp only [exchangeAt, image, imageOfItems_eq_map]
      rw [map_modify fun item => ih item keys]
    | map entries =>
      simp only [exchangeAt, image, imageOfEntries_eq_map]
      rw [map_modify]
      intro entry
      rw [ih]

theorem image_reorder (exchanges : List Value.Exchange) (value : Value) (keys : List Atom) :
    image registry keys (reorder exchanges value) = reorder exchanges (image registry keys value) := by
  induction exchanges generalizing value with
  | nil => rfl
  | cons exchange exchanges ih =>
    rw [reorder, List.foldl_cons, reorder, List.foldl_cons]
    exact (ih _).trans (congrArg (reorder exchanges) (image_exchangeAt ..))

private theorem image_reordered {value other : Value} (reordered : value.Reordered other) (keys : List Atom) :
    (image registry keys value).Reordered (image registry keys other) := by
  obtain ⟨exchanges, rfl⟩ := reordered.exists_reorder
  rw [image_reorder]
  exact Value.reordered_reorder exchanges _

/-! ## Clauses -/

variable {value other : Value}

theorem Scalar.reordered (scalar : Scalar value) (reordered : value.Reordered other) : Scalar other := by
  cases reordered with
  | atom => exact scalar
  | list | map =>
    cases scalar with
    | number number => cases number

theorem ScalarList.reordered (scalars : ScalarList value) (reordered : value.Reordered other) :
    ScalarList other := by
  obtain ⟨scalars⟩ := scalars
  cases reordered with
  | list pairs =>
    refine .intro fun other member => ?_
    obtain ⟨item, source, same⟩ := exists_source pairs member
    exact (scalars item source).reordered same

/-- Entries of another order have keys and values of the same kinds. -/
theorem forall_reordered {entries others : Entries} (reordered : (Value.map entries).Reordered (.map others))
    {keyed : Atom → Prop} {valued : Value → Prop} (keys : ∀ entry ∈ entries, keyed entry.1)
    (values : ∀ entry ∈ entries, ∀ other, entry.2.Reordered other → valued other) :
    (∀ other ∈ others, keyed other.1) ∧ ∀ other ∈ others, valued other.2 := by
  constructor
  · intro other member
    obtain ⟨entry, source, same, -⟩ := reordered.exists_entry member
    exact same ▸ keys entry source
  · intro other member
    obtain ⟨entry, source, -, below⟩ := reordered.exists_entry member
    exact values entry source _ below

theorem Within.perm {shape : Shape} {keys others : List Atom} (moves : keys.Perm others) :
    Within shape keys ↔ Within shape others := by
  simp only [Within, moves.mem_iff]

theorem Together.perm {keys others : List Atom} (together : Together keys) (moves : keys.Perm others) :
    Together others := by
  have some : keys ≠ [] ↔ others ≠ [] := by
    rw [Ne, Ne, ← List.length_eq_zero_iff, ← List.length_eq_zero_iff, moves.length_eq]
  simpa only [Together, Within.perm moves, moves.mem_iff, some] using together

structure Unordered (value : Value) : Prop where
  clause (clause : Clause value) (other : Value) (reordered : value.Reordered other) : Clause other
  clauses (clauses : ClauseList value) (other : Value) (reordered : value.Reordered other) : ClauseList other
  comparison (comparison : Comparison value) (other : Value) (reordered : value.Reordered other) :
    Comparison other

theorem Ordered.reordered (ordered : Ordered value) (reordered : value.Reordered other) : Ordered other := by
  cases reordered with
  | atom => exact ordered
  | list =>
    cases ordered with
    | number number => cases number
  | map => exact .map _

/-- Only lists of scalars, comparisons and clauses have an order that could be told apart. -/
theorem Unordered.operand (unordered : Unordered value) {operator : Operator}
    (operand : Operand operator value) (reordered : value.Reordered other) : Operand operator other := by
  have leaf (plain : value.isContainer = false) : Operand operator other := by
    cases reordered with
    | atom => exact operand
    | list | map => cases plain
  cases operand with
  | equality kind scalar => exact .equality kind (scalar.reordered reordered)
  | order kind ordered => exact .order kind (ordered.reordered reordered)
  | membership kind scalars => exact .membership kind (scalars.reordered reordered)
  | negated comparison => exact .negated (unordered.comparison comparison other reordered)
  | elemMatch clause => exact .elemMatch (unordered.clause clause other reordered)
  | present | kindName | pattern => exact leaf rfl
  | size count => cases count <;> exact leaf rfl
  | kindNumber number => cases number <;> exact leaf rfl
  | patternFlags flags =>
    cases flags
    exact leaf rfl

private theorem clause_reordered {entries others : Entries} (each : ∀ entry ∈ entries, Unordered entry.2)
    (reordered : (Value.map entries).Reordered (.map others)) (clause : Clause (.map entries)) :
    Clause (.map others) := by
  cases clause with
  | joined keys values =>
    obtain ⟨keys, values⟩ := forall_reordered reordered keys fun entry member =>
      (each entry member).clauses (values entry member)
    exact .joined keys values
  | plain names values =>
    obtain ⟨names, values⟩ :=
      forall_reordered reordered names fun entry member _ => (values entry member).reordered
    exact .plain names values
  | arrays names values =>
    obtain ⟨names, values⟩ :=
      forall_reordered reordered names fun entry member _ => (values entry member).reordered
    exact .arrays names values
  | compared names values =>
    obtain ⟨names, values⟩ := forall_reordered reordered names fun entry member =>
      (each entry member).comparison (values entry member)
    exact .compared names values

private theorem comparison_reordered {entries others : Entries} (each : ∀ entry ∈ entries, Unordered entry.2)
    (reordered : (Value.map entries).Reordered (.map others)) (comparison : Comparison (.map entries)) :
    Comparison (.map others) := by
  obtain ⟨keys, operands⟩ := comparison
  refine .intro (keys.perm reordered.perm_keys) fun other member operator same => ?_
  obtain ⟨entry, source, key, below⟩ := reordered.exists_entry member
  exact (each entry source).operand (operands entry source operator (key.trans same)) below

theorem unordered (value : Value) : Unordered value := by
  induction value using Value.treeInduction with
  | atom leaf =>
    have same {other : Value} (reordered : (Value.atom leaf).Reordered other) : .atom leaf = other := by
      cases reordered
      rfl
    exact ⟨fun clause _ reordered => same reordered ▸ clause,
      fun clauses _ reordered => same reordered ▸ clauses,
      fun comparison _ reordered => same reordered ▸ comparison⟩
  | list items ih =>
    refine ⟨nofun, ?_, nofun⟩
    rintro ⟨each⟩ other reordered
    cases reordered with
    | list pairs =>
      refine .intro fun other member => ?_
      obtain ⟨item, source, below⟩ := exists_source pairs member
      exact (ih item source).clause (each item source) other below
  | map entries ih =>
    constructor
    · intro clause other reordered
      obtain ⟨_, others, rfl, -, -⟩ := Value.reordered_map_iff.mp reordered
      exact clause_reordered ih reordered clause
    · nofun
    · intro comparison other reordered
      obtain ⟨_, others, rfl, -, -⟩ := Value.reordered_map_iff.mp reordered
      exact comparison_reordered ih reordered comparison

/-! ## Violations -/

/-- A key that is allowed somewhere is allowed wherever what it is stored under is new. -/
theorem keyViolation?_of_fresh {place elsewhere : Trail} {taken others : List Atom} {key : Atom}
    (allowed : keyViolation? registry place taken key = none) (fresh : storedKey registry key ∉ others) :
    keyViolation? registry elsewhere others key = none := by
  rcases keyViolation?_eq_none allowed with ⟨operator, rfl, -⟩ | ⟨name, property, rfl, bare, found, same, -⟩
  · rw [keyViolation?, if_pos (isOperatorKey_key operator),
      if_pos (List.mem_map_of_mem (Operator.mem_allowed operator))]
  · rw [same] at fresh
    simp [keyViolation?, bare, found, fresh]

private theorem storedKey_text (plain : registry.NamesFields) {place : Trail} {taken : List Atom} {key : Atom}
    (allowed : keyViolation? registry place taken key = none) :
    ∃ name, storedKey registry key = .text name := by
  rcases keyViolation?_eq_none allowed with ⟨operator, rfl, same⟩ | ⟨_, property, -, -, found, same, -⟩
  · exact ⟨_, same⟩
  · obtain ⟨name, canonical, -⟩ := plain property (Registry.mem_properties_of_mem_filterable
      (Registry.mem_filterable_of_resolveFilterable found))
    exact ⟨name, same.trans canonical⟩

def Unviolated (registry : Registry) (limit : Value) (visits : List Visit) : Prop :=
  ∀ visit ∈ visits, violation? registry limit visit = none

theorem unviolated_cons {visit : Visit} {visits : List Visit} :
    Unviolated registry limit (visit :: visits) ↔
      violation? registry limit visit = none ∧ Unviolated registry limit visits := List.forall_mem_cons

theorem unviolated_append {visits others : List Visit} :
    Unviolated registry limit (visits ++ others) ↔
      Unviolated registry limit visits ∧ Unviolated registry limit others := List.forall_mem_append

def EntryAllowed (registry : Registry) (limit : Value) (place : Trail) (entry : Atom × Value) : Prop :=
  keyViolation? registry (storedPlace registry place) [] entry.1 = none ∧
    Unviolated registry limit (visitsAt (.key entry.1 :: place) entry.2)

theorem entries_allowed {place : Trail} {earlier : List Atom} {entries : Entries}
    (unviolated : Unviolated registry limit (visitsOfEntries place earlier entries)) :
    ∀ entry ∈ entries, EntryAllowed registry limit place entry := by
  induction entries generalizing earlier with
  | nil => exact fun _ member => absurd member List.not_mem_nil
  | cons entry entries ih =>
    rcases entry with ⟨key, item⟩
    rw [visitsOfEntries, unviolated_cons, unviolated_append] at unviolated
    obtain ⟨here, below, later⟩ := unviolated
    rw [List.forall_mem_cons]
    exact ⟨⟨keyViolation?_of_fresh here List.not_mem_nil, below⟩, ih later⟩

private theorem unviolated_of_entries_allowed {place : Trail} {earlier : List Atom} {entries : Entries}
    (allowed : ∀ entry ∈ entries, EntryAllowed registry limit place entry)
    (apart : ((earlier ++ Entries.keys entries).map (storedKey registry)).Nodup) :
    Unviolated registry limit (visitsOfEntries place earlier entries) := by
  induction entries generalizing earlier with
  | nil => exact fun _ member => absurd member List.not_mem_nil
  | cons entry entries ih =>
    rcases entry with ⟨key, item⟩
    rw [List.forall_mem_cons] at allowed
    obtain ⟨⟨here, below⟩, later⟩ := allowed
    have fresh : storedKey registry key ∉ earlier.map (storedKey registry) := by
      rw [Entries.keys, List.map_cons, List.map_append, List.map_cons] at apart
      exact fun known => (List.nodup_append.mp apart).2.2 _ known _ (List.mem_cons_self ..) rfl
    rw [visitsOfEntries, unviolated_cons, unviolated_append]
    refine ⟨keyViolation?_of_fresh here fresh, below, ih later ?_⟩
    rwa [List.append_assoc]

/-- The keys of a map without violations are stored under different keys. -/
theorem storedKeys_nodup (plain : registry.NamesFields) {place : Trail} {entries : Entries}
    (distinct : Entries.Distinct entries)
    (unviolated : Unviolated registry limit (visitsOfEntries place [] entries)) :
    ((Entries.keys entries).map (storedKey registry)).Nodup := by
  have apart : Entries.Distinct (imageOfEntries registry [] entries) :=
    distinct_imageOfEntries plain distinct unviolated
  have stored : Entries.keys (imageOfEntries registry [] entries) =
      (Entries.keys entries).map (storedKey registry) := keys_imageOfEntries entries
  rw [← stored]
  refine (Entries.distinct_iff_nodup ?_).mp apart
  rw [stored, List.forall_mem_map]
  intro key member
  obtain ⟨entry, inside, rfl⟩ := List.mem_map.mp member
  exact storedKey_text plain (entries_allowed unviolated entry inside).1

def UnviolatedAlike (registry : Registry) (limit value other : Value) : Prop :=
  ∀ place, Unviolated registry limit (visitsAt place value) → Unviolated registry limit (visitsAt place other)

private theorem unviolated_items {items others : List Value}
    (pairs : List.Forall₂ (UnviolatedAlike registry limit) items others) {place : Trail} {index : Nat}
    (unviolated : Unviolated registry limit (visitsOfItems place index items)) :
    Unviolated registry limit (visitsOfItems place index others) := by
  induction pairs generalizing index with
  | nil => exact fun _ member => absurd member List.not_mem_nil
  | cons alike _ ih =>
    rw [visitsOfItems, unviolated_append] at unviolated ⊢
    exact ⟨alike _ unviolated.1, ih unviolated.2⟩

private theorem unviolated_reordered (plain : registry.NamesFields) {value other : Value}
    (distinct : value.HasDistinctKeys) (reordered : value.Reordered other) :
    UnviolatedAlike registry limit value other := by
  induction value using Value.treeInduction generalizing other with
  | atom leaf =>
    cases reordered
    exact fun _ unviolated => unviolated
  | list items ih =>
    cases reordered with
    | list pairs =>
      intro place unviolated
      rw [visitsAt, unviolated_cons] at unviolated ⊢
      have alike := forall₂_imp_of_mem pairs fun item member _ =>
        ih item member (Value.hasDistinctKeys_list.mp distinct item member)
      exact ⟨unviolated.1, unviolated_items alike unviolated.2⟩
  | map entries ih =>
    obtain ⟨_, others, rfl, -, -⟩ := Value.reordered_map_iff.mp reordered
    obtain ⟨keys, each⟩ := Value.hasDistinctKeys_map.mp distinct
    intro place unviolated
    rw [visitsAt, unviolated_cons] at unviolated ⊢
    refine ⟨unviolated.1, unviolated_of_entries_allowed ?_ ?_⟩
    · intro other member
      obtain ⟨entry, source, same, below⟩ := reordered.exists_entry member
      obtain ⟨here, deeper⟩ := entries_allowed unviolated.2 entry source
      rw [EntryAllowed, ← same]
      exact ⟨here, ih entry source (each entry source) below _ deeper⟩
    · -- Stored keys that differ pairwise do so in every order, unlike the keys that came before.
      exact (reordered.perm_keys.map _).nodup_iff.mp (storedKeys_nodup plain keys unviolated.2)

/-! ## Whole filters -/

private theorem parse_map_reordered (plain : registry.NamesFields) {entries others : Entries}
    (texts : (Value.map entries).HasTextKeys) (distinct : (Value.map entries).HasDistinctKeys)
    (reordered : (Value.map entries).Reordered (.map others)) {canonical : Value}
    (parsed : parse registry limit (.map entries) = .ok canonical) :
    parse registry limit (.map others) = .ok (image registry [] (.map others)) := by
  obtain ⟨allowed, rfl⟩ := parse_map_ok plain distinct parsed
  have checked := (checked_of_texts _ (image_hasTextKeys plain distinct allowed)).clause []
  have clause : Clause (image registry [] (.map entries)) := checked.eq_ok_iff.mp (parse_valid parsed)
  have moved : Clause (image registry [] (.map others)) :=
    (unordered _).clause clause _ (image_reordered reordered [])
  have unviolated : firstViolation? registry limit (visits (.map others)) = none :=
    firstViolation?_eq_none_iff.mpr
      (unviolated_reordered plain distinct reordered [] (firstViolation?_eq_none_iff.mp allowed))
  have apart := distinct.reordered texts reordered
  rcases parse_unviolated plain apart unviolated with ⟨-, accepted⟩ | ⟨flaw, trail, invalid, -⟩
  · exact accepted
  · have judged := (checked_of_texts _ (image_hasTextKeys plain apart unviolated)).clause []
    cases (judged.eq_ok_iff.mpr moved).symm.trans invalid

/-- A filter that is parsed is parsed in every order of its entries, and so is what it is stored as. -/
theorem parse_reorder (plain : registry.NamesFields) {filter canonical : Value} (texts : filter.HasTextKeys)
    (distinct : filter.HasDistinctKeys) (parsed : parse registry limit filter = .ok canonical)
    (exchanges : List Value.Exchange) :
    parse registry limit (reorder exchanges filter) = .ok (reorder exchanges canonical) := by
  cases filter with
  | atom leaf =>
    rw [Value.reorder_atom]
    cases leaf with
    | null =>
      obtain rfl : Value.empty = canonical := Except.ok.inj parsed
      rw [Value.reorder_empty]
      rfl
    | _ => cases parsed
  | list items => cases parsed
  | map entries =>
    have reordered := Value.reordered_reorder exchanges (.map entries)
    obtain ⟨_, others, moved, -, -⟩ := Value.reordered_map_iff.mp reordered
    obtain ⟨-, rfl⟩ := parse_map_ok plain distinct parsed
    rw [← image_reorder, moved]
    exact parse_map_reordered plain texts distinct (moved ▸ reordered) parsed

/-- Filters that differ in the order of entries only are parsed or refused alike, and what they are stored as
differs in the same way: the exchanges that lead from one filter to the other lead from one result to the
other. -/
theorem parse_reordered (registry : Registry) (plain : registry.NamesFields) (limit filter other : Value)
    (texts : filter.HasTextKeys) (distinct : filter.HasDistinctKeys) (reordered : filter.Reordered other) :
    ((∃ canonical, parse registry limit filter = .ok canonical) ↔
      ∃ canonical, parse registry limit other = .ok canonical) ∧
    (∃ exchanges, reorder exchanges filter = other) ∧
    ∀ exchanges, reorder exchanges filter = other →
      ∀ canonical, parse registry limit filter = .ok canonical →
        parse registry limit other = .ok (reorder exchanges canonical) ∧
          canonical.Reordered (reorder exchanges canonical) := by
  obtain ⟨exchanges, there⟩ := reordered.exists_reorder
  obtain ⟨returns, back⟩ := reordered.symm.exists_reorder
  refine ⟨⟨?_, ?_⟩, ⟨exchanges, there⟩, ?_⟩
  · rintro ⟨canonical, parsed⟩
    exact ⟨_, there ▸ parse_reorder plain texts distinct parsed exchanges⟩
  · rintro ⟨canonical, parsed⟩
    have moved := parse_reorder plain (texts.reordered reordered) (distinct.reordered texts reordered)
      parsed returns
    exact ⟨_, back ▸ moved⟩
  · rintro exchanges rfl canonical parsed
    exact ⟨parse_reorder plain texts distinct parsed exchanges, Value.reordered_reorder exchanges _⟩

/-- A list of alternatives changes places with an operator, and its two conditions change places too. -/
theorem parse_reordered_alternatives :
    let sent : Value := .map [
      (.text "$or", .list [.map [(.text "typeName", .text "pdf"), (.text "created", .text "null")]]),
      (.text "$and", .list [])]
    let other : Value := .map [
      (.text "$and", .list []),
      (.text "$or", .list [.map [(.text "created", .text "null"), (.text "typeName", .text "pdf")]])]
    let stored : Value := .map [
      (.text "$or", .list [.map [(.text "type_name", .text "pdf"), (.text "created_at", .null)]]),
      (.text "$and", .list [])]
    let moved : Value := .map [
      (.text "$and", .list []),
      (.text "$or", .list [.map [(.text "created_at", .null), (.text "type_name", .text "pdf")]])]
    Registry.ofFiles.NamesFields ∧ sent.HasTextKeys ∧ sent.HasDistinctKeys ∧ sent.Reordered other ∧
      parse Registry.ofFiles (.int 3) sent = .ok stored ∧
      parse Registry.ofFiles (.int 3) other = .ok moved ∧ stored.Reordered moved := by
  intro sent other stored moved
  let exchanges : List Value.Exchange := [⟨[0, 0], 0⟩, ⟨[], 0⟩]
  have texts : sent.HasTextKeys := by
    intro key member
    have known : (key = .text "$or" ∨ key = .text "typeName" ∨ key = .text "created") ∨
        key = .text "$and" := by
      simpa [sent, Value.mem_everyKey_map, Value.mem_everyKey_list] using member
    rcases known with (rfl | rfl | rfl) | rfl <;> exact ⟨_, rfl⟩
  have distinct : sent.HasDistinctKeys := by
    simp [sent, Entries.Distinct, Entries.keys, Atom.sameKey_text]
  have reordered : sent.Reordered other := Value.reordered_reorder exchanges sent
  have parsed : parse Registry.ofFiles (.int 3) sent = .ok stored :=
    parse_map_of_valid (by rfl) (by rfl) (by rfl)
  obtain ⟨-, -, alike⟩ := parse_reordered Registry.ofFiles Registry.ofFiles_namesFields (.int 3) sent other
    texts distinct reordered
  exact ⟨Registry.ofFiles_namesFields, texts, distinct, reordered, parsed, alike exchanges rfl stored parsed⟩

end QueryGate.Filter
