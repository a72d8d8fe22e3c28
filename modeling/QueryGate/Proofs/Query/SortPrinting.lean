import Mathlib.Data.List.Basic
import QueryGate.Proofs.Pairs
import QueryGate.Proofs.Query.Segments
import QueryGate.Proofs.Registry.Names
/-!
Writing sort orders. An order is written as its fields one after another with semicolons between them, a minus
in front of those that go down. In a registry whose names can be spelled, and stand for themselves, every order
that was read from some text is read from its own text as well.
-/

namespace QueryGate.Query

open QueryGate.Text QueryGate.Filter

/-! ## Writing -/

def segment (entry : Atom × Direction) : List Char :=
  match entry.2 with
  | .ascending => entry.1.chars.toList
  | .descending => '-' :: entry.1.chars.toList

def SortOrder.chars (order : SortOrder) : List Char := [';'].intercalate (order.map segment)

def SortOrder.text (order : SortOrder) : String := String.ofList order.chars

/-! ## Splitting -/

section Splitting

variable {separator : Char} {part rest : List Char}

private theorem splitChars_of_not_mem (free : separator ∉ part) : splitChars separator part = [part] := by
  induction part with
  | nil => rfl
  | cons c part ih =>
    obtain ⟨here, later⟩ := not_or.mp (mt List.mem_cons.mpr free)
    rw [splitChars, if_neg (by simpa using Ne.symm here), ih later]

private theorem splitChars_append (free : separator ∉ part) :
    splitChars separator (part ++ separator :: rest) = part :: splitChars separator rest := by
  induction part with
  | nil => simp [splitChars]
  | cons c part ih =>
    obtain ⟨here, later⟩ := not_or.mp (mt List.mem_cons.mpr free)
    rw [List.cons_append, splitChars, if_neg (by simpa using Ne.symm here), ih later]

private theorem splitChars_intercalate {parts : List (List Char)} (some : parts ≠ [])
    (free : ∀ part ∈ parts, separator ∉ part) :
    splitChars separator ([separator].intercalate parts) = parts := by
  induction parts with
  | nil => exact absurd rfl some
  | cons part parts ih =>
    obtain ⟨here, later⟩ := List.forall_mem_cons.mp free
    cases parts with
    | nil =>
      rw [List.intercalate_singleton]
      exact splitChars_of_not_mem here
    | cons next parts =>
      rw [List.intercalate_cons_cons, List.append_assoc, List.singleton_append, splitChars_append here,
        ih nofun later]

end Splitting

/-! ## Names that can be spelled -/

/-- Names that a sort text can spell. -/
structure SortName (name : String) : Prop where
  filled : name ≠ ""
  unsplit : ';' ∉ name.toList
  first_not_blank : ∀ c ∈ name.toList.head?, isBlank c = false
  last_not_blank : ∀ c ∈ name.toList.getLast?, isBlank c = false
  unsigned : ∀ c ∈ name.toList.head?, c ≠ '-' ∧ c ≠ '+'

namespace SortName

variable {name : String}

/-- Only the first and the last character count. -/
theorem of_ends {first last : Char} (start : name.toList.head? = some first)
    (stop : name.toList.getLast? = some last) (unsplit : ';' ∉ name.toList)
    (first_not_blank : isBlank first = false) (last_not_blank : isBlank last = false)
    (unsigned : first ≠ '-' ∧ first ≠ '+') : SortName name where
  filled := by
    rintro rfl
    cases start
  unsplit := unsplit
  first_not_blank c member := by
    rw [start] at member
    exact Option.some.inj member ▸ first_not_blank
  last_not_blank c member := by
    rw [stop] at member
    exact Option.some.inj member ▸ last_not_blank
  unsigned c member := by
    rw [start] at member
    exact Option.some.inj member ▸ unsigned

theorem stripChars_eq (spelled : SortName name) : stripChars name.toList = name.toList :=
  stripChars_eq_self spelled.first_not_blank spelled.last_not_blank

private theorem not_mem_segment (spelled : SortName name) (direction : Direction) :
    ';' ∉ segment (.text name, direction) := by
  cases direction with
  | ascending => exact spelled.unsplit
  | descending => exact List.not_mem_cons_of_ne_of_not_mem (by decide) spelled.unsplit

theorem exists_chars (spelled : SortName name) :
    ∃ first rest, name.toList = first :: rest ∧ first ≠ '-' ∧ first ≠ '+' := by
  cases chars : name.toList with
  | nil => exact absurd (String.toList_eq_nil_iff.mp chars) spelled.filled
  | cons first rest =>
    have unsigned := spelled.unsigned first (by rw [chars]; rfl)
    exact ⟨first, rest, rfl, unsigned⟩

private theorem stripChars_minus (spelled : SortName name) :
    stripChars ('-' :: name.toList) = '-' :: name.toList := by
  refine stripChars_eq_self (fun c first => ?_) ?_
  · obtain rfl := Option.some.inj first
    rfl
  · obtain ⟨first, rest, chars, -⟩ := spelled.exists_chars
    have last := spelled.last_not_blank
    rw [chars] at last ⊢
    rwa [List.getLast?_cons_cons]

private theorem readTerm?_segment (spelled : SortName name) (direction : Direction) :
    readTerm? (segment (.text name, direction)) = some ⟨name, direction⟩ := by
  have kept : String.ofList name.toList = name := String.ofList_toList
  cases direction with
  | ascending =>
    obtain ⟨first, rest, chars, noMinus, noPlus⟩ := spelled.exists_chars
    change readTerm? name.toList = _
    unfold readTerm?
    rw [spelled.stripChars_eq, chars]
    rw [chars] at kept
    split
    next same => cases same
    next same => exact absurd (List.cons.inj same).1 noMinus
    next same => exact absurd (List.cons.inj same).1 noPlus
    next => rw [kept]
  | descending =>
    change readTerm? ('-' :: name.toList) = _
    unfold readTerm?
    rw [spelled.stripChars_minus]
    simp only [spelled.stripChars_eq, kept]

end SortName

/-! ## Reading back -/

/-- Fields that every term with their name stands for. -/
def StandsForItself (registry : Registry) (field : Atom) : Prop :=
  ∃ name, field = .text name ∧ SortName name ∧
    ∀ direction, termField registry ⟨name, direction⟩ = .ok field

/-- Every filterable property can be found by its canonical name, and these names and the identity field can
be spelled. -/
structure SpellsNames (registry : Registry) : Prop where
  field (property : Property) (member : property ∈ registry.filterable) :
    ∃ name kept, property.canonicalName = .text name ∧ SortName name ∧
      registry.resolve name = some kept ∧ kept.isFilterable = true ∧
      kept.canonicalName = property.canonicalName
  identity : ∃ name, registry.identityField = .text name ∧ SortName name

variable {registry : Registry}

private theorem termField_standsForItself (spells : SpellsNames registry) {term : SortTerm} {field : Atom}
    (known : termField registry term = .ok field) : StandsForItself registry field := by
  rw [termField] at known
  split at known
  next identity =>
    -- The identity field is sorted by although no property has its name, in either direction.
    obtain ⟨name, same, spelled⟩ := spells.identity
    obtain rfl := Except.ok.inj known
    have named : term.name = name := by
      have here := (Bool.and_eq_true_iff.mp identity).1
      simp only [Registry.isIdentity, same, beq_iff_eq] at here
      exact here.symm
    refine ⟨term.name, rfl, named ▸ spelled, fun direction => ?_⟩
    rw [termField, if_pos identity]
  next =>
    split at known
    next property found =>
      obtain rfl := Except.ok.inj known
      obtain ⟨name, kept, canonical, spelled, resolved, exposed, same⟩ :=
        spells.field property (Registry.mem_filterable_of_resolveFilterable found)
      refine ⟨name, canonical, spelled, fun direction => ?_⟩
      rw [termField]
      split
      next => rw [canonical]
      next =>
        rw [Registry.resolveFilterable_eq_some.mpr ⟨resolved, exposed⟩]
        exact congrArg Except.ok same
    next => cases known

def termOf (entry : Atom × Direction) : SortTerm := ⟨entry.1.chars, entry.2⟩

private theorem sortTerms_text {order : SortOrder} (filled : order ≠ [])
    (fields : ∀ key ∈ Entries.keys order, StandsForItself registry key) :
    sortTerms order.text = order.map termOf := by
  have spelled {entry : Atom × Direction} (member : entry ∈ order) :
      ∃ name, entry.1 = .text name ∧ SortName name := by
    obtain ⟨name, same, spelled, -⟩ := fields entry.1 (List.mem_map_of_mem member)
    exact ⟨name, same, spelled⟩
  have free : ∀ part ∈ order.map segment, ';' ∉ part := by
    refine List.forall_mem_map.mpr fun entry member => ?_
    rcases entry with ⟨key, direction⟩
    obtain ⟨name, rfl, name_spelled⟩ := spelled member
    exact name_spelled.not_mem_segment direction
  have read : ∀ entry ∈ order, readTerm? (segment entry) = some (termOf entry) := by
    rintro ⟨key, direction⟩ member
    obtain ⟨name, rfl, name_spelled⟩ := spelled member
    exact name_spelled.readTerm?_segment direction
  have parts : order.map segment ≠ [] := mt List.map_eq_nil_iff.mp filled
  rw [sortTerms, SortOrder.text, String.toList_ofList, SortOrder.chars, splitChars_intercalate parts free,
    List.filterMap_map, ← List.filterMap_eq_map]
  exact List.filterMap_congr read

private theorem names_of_standing {order : SortOrder}
    (fields : ∀ key ∈ Entries.keys order, StandsForItself registry key) :
    Names registry (order.map termOf) order := by
  refine List.forall₂_map_left_iff.mpr (List.forall₂_same.mpr ?_)
  rintro ⟨key, direction⟩ member
  obtain ⟨name, rfl, -, known⟩ := fields key (List.mem_map_of_mem member)
  exact ⟨known direction, rfl⟩

/-- An order that was read from a text is written as a text from which the same order is read. -/
theorem parseSort_order_text (registry : Registry) (spells : SpellsNames registry) (sort : String)
    (order : SortOrder) (parsed : parseSort registry (.text sort) = .ok (some order)) :
    parseSort registry (.text order.text) = .ok (some order) := by
  obtain ⟨filled, named, names, same⟩ := parseSort_text_eq_ok_iff.mp parsed
  have fields : ∀ key ∈ Entries.keys order, StandsForItself registry key := by
    intro key member
    obtain ⟨entry, kept, rfl⟩ := List.mem_map.mp member
    rw [same] at kept
    obtain ⟨setting, inside, key⟩ := List.mem_map.mp (Entries.key_mem_of_mem_ofSettings kept)
    obtain ⟨term, -, known, -⟩ := exists_source names inside
    rw [← key]
    exact termField_standsForItself spells known
  have distinct : Entries.Distinct order := same ▸ Entries.distinct_ofSettings named
  refine parseSort_text_eq_ok_iff.mpr ⟨filled, order, ?_, (Entries.ofSettings_of_distinct distinct).symm⟩
  rw [sortTerms_text filled fields]
  exact names_of_standing fields

theorem ofFiles_spellsNames : SpellsNames Registry.ofFiles where
  field := by
    intro property member
    simp only [Registry.filterable, Registry.ofFiles, List.mem_filter, List.mem_cons, List.not_mem_nil,
      or_false] at member
    obtain ⟨rfl | rfl | rfl, exposed⟩ := member
    · exact ⟨"type_name", _, rfl, .of_ends rfl rfl (by decide) rfl rfl (by decide), rfl, rfl, rfl⟩
    · exact ⟨"created_at", _, rfl, .of_ends rfl rfl (by decide) rfl rfl (by decide), rfl, rfl, rfl⟩
    · cases exposed
  identity := ⟨"_id", rfl, .of_ends rfl rfl (by decide) rfl rfl (by decide)⟩

/-- Blanks, empty segments and a field that is named twice leave no trace in the text of an order. -/
theorem parseSort_order_text_repeated :
    let order : SortOrder :=
      [(.text "created_at", .descending), (.text "type_name", .descending), (.text "_id", .ascending)]
    SpellsNames Registry.ofFiles ∧
      parseSort Registry.ofFiles (.text " +created ;; - typeName;_id;-created_at") = .ok (some order) ∧
      order.text = "-created_at;-type_name;_id" ∧
      parseSort Registry.ofFiles (.text order.text) = .ok (some order) := by
  intro order
  have parsed : parseSort Registry.ofFiles (.text " +created ;; - typeName;_id;-created_at") =
      .ok (some order) := by rfl
  exact ⟨ofFiles_spellsNames, parsed, by rfl,
    parseSort_order_text Registry.ofFiles ofFiles_spellsNames _ order parsed⟩

end QueryGate.Query
