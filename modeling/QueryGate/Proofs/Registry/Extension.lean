import QueryGate.Proofs.Filter.Rebuilding
import QueryGate.Proofs.Registry.Building
import QueryGate.Proofs.Value.Tree
import QueryGate.Query.Sort
/-!
Registries that grow. Properties that are declared later may take the canonical name of an earlier one, as
their public name or as a canonical name of their own, and then that name stands for something else. A public
name is found before any canonical one and is never given twice, so whoever uses public names only does not
notice what was declared later: filters and sort orders come out the same or are rejected for the same reason.
-/

namespace QueryGate

open QueryGate.Outcome

/-- A registry that has further properties behind those of another one. -/
structure Registry.Extends (larger registry : Registry) : Prop where
  identityField : larger.identityField = registry.identityField
  properties : registry.properties <+: larger.properties

/-! ## Further calls -/

namespace Builder

variable {builder result : Builder} {registry larger : Registry}

private theorem extends_expose {exposure : Exposure} (accepted : builder.expose exposure = .ok result) :
    result.declared.Extends builder.declared := by
  obtain ⟨property, -, rfl⟩ := expose_ok accepted
  exact ⟨rfl, List.prefix_append ..⟩

private theorem extends_exposeAll {further : List Exposure} (accepted : builder.exposeAll further = .ok result) :
    result.declared.Extends builder.declared := by
  induction further generalizing builder with
  | nil =>
    rw [← Except.ok.inj accepted]
    exact ⟨rfl, List.prefix_rfl⟩
  | cons exposure further ih =>
    rw [exposeAll] at accepted
    obtain ⟨between, first, rest⟩ := bind_eq_ok.mp accepted
    have here := extends_expose first
    have later := ih rest
    exact ⟨later.identityField.trans here.identityField, here.properties.trans later.properties⟩

private theorem extends_built {further : List Exposure} (built : builder.build = .ok registry)
    (accepted : builder.exposeAll further = .ok result) (rebuilt : result.build = .ok larger) :
    larger.Extends registry := by
  rw [build_ok built, build_ok rebuilt]
  exact extends_exposeAll accepted

end Builder

namespace Registry

open QueryGate.Filter QueryGate.Query

/-- A key that is an operator or a public name. -/
def PublicKey (registry : Registry) (key : Atom) : Prop :=
  ∃ name, key = .text name ∧ (isOperatorKey name = true ∨ registry.contains name = true)

variable {registry larger : Registry} {name : String} {limit : Value}

@[simp]
theorem publicKey_text :
    registry.PublicKey (.text name) ↔ isOperatorKey name = true ∨ registry.contains name = true := by
  simp [PublicKey]

instance : DecidablePred registry.PublicKey
  | .text name => decidable_of_iff _ publicKey_text.symm
  | .null | .bool _ | .int _ | .float _ | .date _ | .bytes _ => .isFalse (by simp [PublicKey])

/-! ## Names -/

theorem Extends.lookup (grown : larger.Extends registry) (known : registry.contains name = true) :
    larger.lookup name = registry.lookup name := by
  obtain ⟨property, found⟩ := Option.isSome_iff_exists.mp known
  rw [found]
  exact grown.properties.find?_eq_some found

theorem Extends.contains (grown : larger.Extends registry) (known : registry.contains name = true) :
    larger.contains name = true := by
  rw [Registry.contains, grown.lookup known]
  exact known

theorem Extends.resolveFilterable (grown : larger.Extends registry) (known : registry.contains name = true) :
    larger.resolveFilterable name = registry.resolveFilterable name := by
  -- The table of canonical names, which later declarations do change, is not asked for a public name.
  obtain ⟨property, found⟩ := Option.isSome_iff_exists.mp known
  rw [Registry.resolveFilterable, Registry.resolveFilterable, resolve, resolve, grown.lookup known, found,
    Option.some_or, Option.some_or]

/-! ## Filters -/

theorem Extends.canonicalKey (grown : larger.Extends registry) {key : Atom} (known : registry.PublicKey key)
    (trail : Trail) (date : Option String) (taken : List Atom) :
    Filter.canonicalKey larger trail date taken key = Filter.canonicalKey registry trail date taken key := by
  obtain ⟨name, rfl, sigilled | exposed⟩ := known
  · rw [Filter.canonicalKey, Filter.canonicalKey, if_pos sigilled, if_pos sigilled]
  · rw [Filter.canonicalKey, Filter.canonicalKey, grown.resolveFilterable exposed]

theorem Extends.canonicalNode (grown : larger.Extends registry) (value : Value)
    (known : ∀ key ∈ value.everyKey, registry.PublicKey key) (depth : Nat) (trail : Trail)
    (date : Option String) :
    Filter.canonicalNode larger limit depth trail date value =
      Filter.canonicalNode registry limit depth trail date value := by
  induction value using Value.treeInduction generalizing depth trail date with
  | atom leaf => rfl
  | list items ih =>
    have alike : ∀ item ∈ items, ∀ trail,
        Filter.canonicalNode larger limit (depth + 1) trail date item =
          Filter.canonicalNode registry limit (depth + 1) trail date item := by
      intro item member trail
      refine ih item member (fun key inside => known key ?_) _ _ _
      exact Value.mem_everyKey_list.mpr ⟨item, member, inside⟩
    rw [Filter.canonicalNode, Filter.canonicalNode, canonicalItems_same alike]
  | map entries ih =>
    have renamed : ∀ entry ∈ entries, ∀ taken, Filter.canonicalKey larger trail date taken entry.1 =
        Filter.canonicalKey registry trail date taken entry.1 := by
      intro entry member taken
      refine grown.canonicalKey (known entry.1 ?_) _ _ _
      exact Value.mem_everyKey_map.mpr ⟨entry, member, .inl rfl⟩
    have alike : ∀ entry ∈ entries, ∀ trail date,
        Filter.canonicalNode larger limit (depth + 1) trail date entry.2 =
          Filter.canonicalNode registry limit (depth + 1) trail date entry.2 := by
      intro entry member trail date
      refine ih entry member (fun key inside => known key ?_) _ _ _
      exact Value.mem_everyKey_map.mpr ⟨entry, member, .inr inside⟩
    rw [Filter.canonicalNode, Filter.canonicalNode, canonicalEntries_same renamed alike]

theorem Extends.parse (grown : larger.Extends registry) {filter : Value}
    (known : ∀ key ∈ filter.everyKey, registry.PublicKey key) :
    Filter.parse larger limit filter = Filter.parse registry limit filter := by
  cases filter with
  | atom leaf => cases leaf <;> rfl
  | list items => rfl
  | map entries => rw [Filter.parse, Filter.parse, grown.canonicalNode (.map entries) known]

/-! ## Sort orders -/

theorem Extends.termField (grown : larger.Extends registry) {term : SortTerm}
    (known : registry.contains term.name = true) :
    Query.termField larger term = Query.termField registry term := by
  rw [Query.termField, Query.termField, grown.contains known, known, grown.resolveFilterable known,
    Bool.not_true, Bool.and_false, Bool.and_false]

theorem Extends.addTerms (grown : larger.Extends registry) {terms : List SortTerm}
    (known : ∀ term ∈ terms, registry.contains term.name = true) (order : SortOrder) :
    Query.addTerms larger order terms = Query.addTerms registry order terms := by
  induction terms generalizing order with
  | nil => rfl
  | cons term terms ih =>
    rw [List.forall_mem_cons] at known
    simp only [Query.addTerms, grown.termField known.1, ih known.2]

theorem Extends.parseSort (grown : larger.Extends registry) {sort : String}
    (known : ∀ term ∈ sortTerms sort, registry.contains term.name = true) :
    Query.parseSort larger (.text sort) = Query.parseSort registry (.text sort) := by
  rw [Query.parseSort, Query.parseSort, parseSortText, parseSortText, grown.addTerms known]

/-! ## Filters and sort orders of a larger registry -/

/-- What is declared later does not change what comes of a filter or a sort order that uses public names. -/
theorem public_names_undisturbed (builder extended : Builder) (registry larger : Registry)
    (further : List Exposure) (built : builder.build = .ok registry)
    (accepted : builder.exposeAll further = .ok extended) (rebuilt : extended.build = .ok larger) :
    (∀ limit filter, (∀ key ∈ filter.everyKey, registry.PublicKey key) →
      Filter.parse larger limit filter = Filter.parse registry limit filter) ∧
    ∀ sort, (∀ term ∈ sortTerms sort, registry.contains term.name = true) →
      Query.parseSort larger (.text sort) = Query.parseSort registry (.text sort) := by
  have grown := Builder.extends_built built accepted rebuilt
  exact ⟨fun limit filter known => grown.parse known, fun sort known => grown.parseSort known⟩

/-- One declaration takes the canonical name of a property as its public name, another one the canonical name of a
date for plain values. Filters by public names come out as before, accepted or rejected, and so do sort orders; a
filter by canonical names does not. -/
theorem public_names_undisturbed_files :
    let builder : Builder := ⟨"files", .text "_id", ofFiles.properties, false⟩
    let further : List Exposure := [⟨.text "type_name", .text "kind", .null, .bool true⟩,
      ⟨.text "made", .text "created_at", .null, .bool true⟩]
    let later : List Property := [⟨.text "type_name", .text "kind", .plain, .bool true⟩,
      ⟨.text "made", .text "created_at", .plain, .bool true⟩]
    let larger : Registry := ⟨"files", .text "_id", ofFiles.properties ++ later⟩
    let named : Value := .map [(.text "typeName", .map [(.text "$in", .list [.bool true])]),
      (.text "created", .map [(.text "$in", .list [.text "null"])])]
    let hidden : Value := .map [(.text "$or", .list [.map [(.text "typeName", .bool true)],
      .map [(.text "internal", .bool true)]])]
    let stored : Value := .map [(.text "type_name", .bool true)]
    (builder.exposeAll further >>= Builder.build) = .ok larger ∧
      parse larger (.int 10) named = parse ofFiles (.int 10) named ∧
      parse ofFiles (.int 10) named = .ok (.map [(.text "type_name", .map [(.text "$in", .list [.bool true])]),
        (.text "created_at", .map [(.text "$in", .list [.null])])]) ∧
      parse larger (.int 10) hidden = parse ofFiles (.int 10) hidden ∧
      parse ofFiles (.int 10) hidden = .error (.unknownProperty "internal") ∧
      parseSort larger (.text "-created;typeName") = parseSort ofFiles (.text "-created;typeName") ∧
      parse ofFiles (.int 10) stored = .ok stored ∧
      parse larger (.int 10) stored = .ok (.map [(.text "kind", .bool true)]) := by
  intro builder further later larger named hidden stored
  have accepted : builder.exposeAll further = .ok ⟨"files", .text "_id", larger.properties, false⟩ := by rfl
  obtain ⟨filters, sorts⟩ := public_names_undisturbed builder _ ofFiles larger further rfl accepted rfl
  have named_public : ∀ key ∈ named.everyKey, ofFiles.PublicKey key := by decide
  have hidden_public : ∀ key ∈ hidden.everyKey, ofFiles.PublicKey key := by decide
  have sort_public : ∀ term ∈ sortTerms "-created;typeName", ofFiles.contains term.name = true := by decide
  exact ⟨rfl, filters _ _ named_public, parse_map_of_valid (by rfl) (by rfl) (by rfl),
    filters _ _ hidden_public, rfl, sorts _ sort_public,
    parse_map_of_valid (by rfl) (by rfl) (by rfl), parse_map_of_valid (by rfl) (by rfl) (by rfl)⟩

end Registry

end QueryGate
