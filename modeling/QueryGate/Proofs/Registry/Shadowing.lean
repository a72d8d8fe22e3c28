import QueryGate.Proofs.Filter.Reparsing
import QueryGate.Proofs.Registry.Building
/-!
Names that are taken. The canonical name of a property may be the public name of another one, or the
canonical name of one that is declared later, and then it stands for that other property. A registry keeps
its names exactly if every property that takes the canonical name of an exposed one is as good as that, and
then filters that were parsed are parsed to themselves.
-/

namespace QueryGate.Registry

open QueryGate.Filter

variable {registry : Registry} {name : String} {property : Property}

/-- The property that a name stands for: the one with that public name or, where none has it, the one
declared last with that canonical name. -/
inductive StandsFor (properties : List Property) (name : String) : Property → Prop
  | publicly {property : Property} (member : property ∈ properties)
      (same : property.publicName = .text name) : StandsFor properties name property
  | canonically {property : Property} (before after : List Property)
      (unknown : ∀ other ∈ properties, other.publicName ≠ .text name)
      (declared : properties = before ++ property :: after)
      (same : property.canonicalName = .text name)
      (last : ∀ other ∈ after, other.canonicalName ≠ .text name) : StandsFor properties name property

theorem lookup_eq_none_iff :
    registry.lookup name = none ↔ ∀ other ∈ registry.properties, other.publicName ≠ .text name := by
  simp [lookup]

theorem lookup_of_uniqueNames (unique : UniqueNames registry.properties)
    (member : property ∈ registry.properties) (same : property.publicName = .text name) :
    registry.lookup name = some property := by
  obtain ⟨before, after, declared⟩ := List.append_of_mem member
  rw [lookup, List.find?_eq_some_iff_append]
  refine ⟨by simp [same], before, after, declared, ?_⟩
  intro other early
  rw [declared, UniqueNames, List.pairwise_append] at unique
  have differs := unique.2.2 other early property (List.mem_cons_self ..)
  rw [same, ← Bool.not_eq_true, Atom.sameKey_text_iff] at differs
  simpa using differs

private theorem byCanonicalName_eq_some_iff :
    registry.byCanonicalName name = some property ↔
      property.canonicalName = .text name ∧ ∃ before after,
        registry.properties = before ++ property :: after ∧
          ∀ other ∈ after, other.canonicalName ≠ .text name := by
  simp only [byCanonicalName, List.find?_eq_some_iff_append, beq_iff_eq, Bool.not_eq_eq_eq_not,
    Bool.not_true, beq_eq_false_iff_ne]
  refine and_congr_right fun _ => ⟨?_, ?_⟩
  · rintro ⟨after, before, reversed, last⟩
    refine ⟨before.reverse, after.reverse, ?_, ?_⟩
    · rw [← List.reverse_reverse registry.properties, reversed]
      simp
    · simpa using last
  · rintro ⟨before, after, declared, last⟩
    refine ⟨after.reverse, before.reverse, ?_, ?_⟩
    · rw [declared]
      simp
    · simpa using last

theorem resolve_eq_some_iff (unique : UniqueNames registry.properties) :
    registry.resolve name = some property ↔ StandsFor registry.properties name property := by
  rw [resolve, Option.or_eq_some_iff, lookup_eq_none_iff, byCanonicalName_eq_some_iff]
  constructor
  · rintro (named | ⟨unknown, same, before, after, declared, last⟩)
    · refine .publicly (mem_of_lookup named) ?_
      simpa using List.find?_some named
    · exact .canonically before after unknown declared same last
  · rintro (⟨member, same⟩ | ⟨before, after, unknown, declared, same, last⟩)
    · exact .inl (lookup_of_uniqueNames unique member same)
    · exact .inr ⟨unknown, same, before, after, declared, last⟩

private theorem exists_resolve (member : property ∈ registry.properties)
    (same : property.canonicalName = .text name) : ∃ kept, registry.resolve name = some kept := by
  have stored : (registry.byCanonicalName name).isSome = true := by
    rw [byCanonicalName, List.find?_isSome]
    exact ⟨property, List.mem_reverse.mpr member, by simp [same]⟩
  rw [← Option.isSome_iff_exists, resolve, Option.isSome_or, stored, Bool.or_true]

/-! ## Registries that keep their names -/

/-- An exposed property with the canonical name and the type of another one. -/
def ServesAs (kept property : Property) : Prop :=
  kept.isFilterable = true ∧ kept.canonicalName = property.canonicalName ∧
    kept.valueType = property.valueType

/-- The canonical name of a property is no operator, and is resolved to a property that serves as it. -/
def KeepsName (registry : Registry) (property : Property) : Prop :=
  ∃ name, property.canonicalName = .text name ∧ isOperatorKey name = false ∧
    ∃ kept, registry.resolve name = some kept ∧ ServesAs kept property

/-- The canonical name of every exposed property is no operator, and stands for a property that serves as
that one. -/
def Unshadowed (properties : List Property) : Prop :=
  ∀ property ∈ properties, property.isFilterable = true →
    ∃ name, property.canonicalName = .text name ∧ isOperatorKey name = false ∧
      ∀ other, StandsFor properties name other → ServesAs other property

private theorem keepsName_of_unshadowed (unique : UniqueNames registry.properties)
    (unshadowed : Unshadowed registry.properties) (member : property ∈ registry.filterable) :
    KeepsName registry property := by
  obtain ⟨declared, exposed⟩ := List.mem_filter.mp member
  obtain ⟨name, named, bare, serve⟩ := unshadowed property declared exposed
  obtain ⟨kept, resolved⟩ := exists_resolve declared named
  exact ⟨name, named, bare, kept, resolved, serve kept ((resolve_eq_some_iff unique).mp resolved)⟩

theorem ServesAs.isDate {kept : Property} (serves : ServesAs kept property) (date : kept.isDate = true) :
    property.isDate = true := by
  rw [Property.isDate] at date ⊢
  rwa [← serves.2.2]

/-- A registry that was built keeps the names of its exposed properties exactly if no other declaration
has taken one of them. -/
theorem built_keeps_names_iff (entity : String) (identityField : Value) (exposures : List Exposure)
    (builder : Builder) (registry : Registry)
    (accepted : (Builder.start entity identityField).exposeAll exposures = .ok builder)
    (built : builder.build = .ok registry) :
    (∀ property ∈ registry.filterable, KeepsName registry property) ↔
      Unshadowed registry.properties := by
  have unique := Builder.uniqueNames_built accepted built
  constructor
  · intro keeps property member exposed
    obtain ⟨name, named, bare, kept, resolved, serves⟩ :=
      keeps property (List.mem_filter.mpr ⟨member, exposed⟩)
    refine ⟨name, named, bare, ?_⟩
    intro other standing
    rw [← resolve_eq_some_iff unique, resolved] at standing
    rwa [← Option.some.inj standing]
  · exact fun unshadowed property member => keepsName_of_unshadowed unique unshadowed member

/-- Two aliases, a date among them, and a property that is not exposed. -/
theorem built_keeps_names_iff_files :
    let exposures : List Exposure := [⟨.text "typeName", .text "type_name", .null, .bool true⟩,
      ⟨.text "created", .text "created_at", .text "date", .bool true⟩,
      ⟨.text "internal", .null, .text "plain", .bool false⟩]
    let builder : Builder := ⟨"files", .text "_id", ofFiles.properties, false⟩
    (Builder.start "files" (.text "_id")).exposeAll exposures = .ok builder ∧
      builder.build = .ok ofFiles ∧ Unshadowed ofFiles.properties ∧
      ∀ property ∈ ofFiles.filterable, KeepsName ofFiles property := by
  intro exposures builder
  have accepted : (Builder.start "files" (.text "_id")).exposeAll exposures = .ok builder := by rfl
  have keeps : ∀ property ∈ ofFiles.filterable, KeepsName ofFiles property := by
    intro property member
    simp only [filterable, ofFiles, List.mem_filter, List.mem_cons, List.not_mem_nil, or_false] at member
    obtain ⟨rfl | rfl | rfl, exposed⟩ := member
    · exact ⟨"type_name", rfl, by decide, _, rfl, rfl, rfl, rfl⟩
    · exact ⟨"created_at", rfl, by decide, _, rfl, rfl, rfl, rfl⟩
    · cases exposed
  have unshadowed := (built_keeps_names_iff _ _ _ _ _ accepted rfl).mp keeps
  exact ⟨accepted, rfl, unshadowed, keeps⟩

/-- A public name takes the canonical name of another property: a filter on that property, parsed twice, is
one on a field that it never named. -/
theorem public_name_takes_canonical_name :
    let exposures : List Exposure := [⟨.text "typeName", .text "type_name", .null, .bool true⟩,
      ⟨.text "type_name", .text "kind", .null, .bool true⟩]
    let aliased : Property := ⟨.text "typeName", .text "type_name", .plain, .bool true⟩
    let registry : Registry :=
      ⟨"files", .text "_id", [aliased, ⟨.text "type_name", .text "kind", .plain, .bool true⟩]⟩
    ((Builder.start "files" (.text "_id")).exposeAll exposures >>= Builder.build) = .ok registry ∧
      aliased ∈ registry.filterable ∧ ¬KeepsName registry aliased ∧
      parse registry (.int 10) (.map [(.text "typeName", .bool true)]) =
        .ok (.map [(.text "type_name", .bool true)]) ∧
      parse registry (.int 10) (.map [(.text "type_name", .bool true)]) =
        .ok (.map [(.text "kind", .bool true)]) := by
  intro exposures aliased registry
  have redirected : ¬KeepsName registry aliased := by
    rintro ⟨name, named, -, kept, resolved, -, same, -⟩
    obtain rfl := Atom.text.inj named
    obtain rfl := Option.some.inj resolved
    exact absurd same (by decide)
  exact ⟨rfl, List.mem_cons_self .., redirected, parse_map_of_valid (by rfl) (by rfl) (by rfl),
    parse_map_of_valid (by rfl) (by rfl) (by rfl)⟩

end QueryGate.Registry
