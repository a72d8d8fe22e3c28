import QueryGate.Proofs.Outcome
import QueryGate.Registry.Builder
/-!
Registries as they are built. Every call that is accepted appends one property under a public name that is
new, so no two properties of a registry that was built have one public name.
-/

namespace QueryGate

/-- No two properties have one public name. -/
def UniqueNames (properties : List Property) : Prop :=
  properties.Pairwise fun first second => first.publicName.sameKey second.publicName = false

namespace Builder

variable {builder result : Builder}

/-- What a call that is accepted exposes. -/
structure Exposed (builder : Builder) (exposure : Exposure) (property : Property) : Prop where
  stated : exposure.publicName.isVacant = false
  publicName : exposure.publicName = .atom property.publicName
  fresh : builder.hasName property.publicName = false
  canonicalName : property.canonicalName = canonicalName property.publicName exposure.name
  valueType : ValueType.ofValue? exposure.type = some property.valueType
  filterable : property.filterable = exposure.filterable

theorem expose_ok {exposure : Exposure} (accepted : builder.expose exposure = .ok result) :
    ∃ property, Exposed builder exposure property ∧
      result = { builder with
        properties := builder.properties ++ [property]
        composite := builder.composite || (exposure.name.isContainer && !exposure.name.isVacant) } := by
  rw [expose] at accepted
  split at accepted
  next => cases accepted
  next stated =>
    split at accepted
    next name same =>
      rw [exposeAs] at accepted
      split at accepted
      next => cases accepted
      next fresh =>
        split at accepted
        next => cases accepted
        next valueType found =>
          rw [← Except.ok.inj accepted]
          exact ⟨_, ⟨by simpa using stated, same, by simpa using fresh, rfl, found, rfl⟩, rfl⟩
    next => cases accepted

theorem uniqueNames_expose {exposure : Exposure} (accepted : builder.expose exposure = .ok result)
    (unique : UniqueNames builder.properties) : UniqueNames result.properties := by
  obtain ⟨property, exposed, rfl⟩ := expose_ok accepted
  have fresh := exposed.fresh
  rw [hasName, List.any_eq_false] at fresh
  rw [UniqueNames, List.pairwise_append]
  refine ⟨unique, List.pairwise_singleton .., ?_⟩
  intro earlier member later last
  rw [List.mem_singleton.mp last]
  simpa using fresh earlier member

private theorem uniqueNames_exposeAll {exposures : List Exposure}
    (accepted : builder.exposeAll exposures = .ok result) (unique : UniqueNames builder.properties) :
    UniqueNames result.properties := by
  induction exposures generalizing builder with
  | nil =>
    rw [← Except.ok.inj accepted]
    exact unique
  | cons exposure exposures ih =>
    rw [exposeAll] at accepted
    obtain ⟨between, first, rest⟩ := Outcome.bind_eq_ok.mp accepted
    exact ih rest (uniqueNames_expose first unique)

/-- Only a call with a canonical name that has parts leaves a builder that cannot build. -/
theorem composite_exposeAll {exposures : List Exposure} (accepted : builder.exposeAll exposures = .ok result)
    (composite : result.composite = true) :
    builder.composite = true ∨
      ∃ exposure ∈ exposures, exposure.name.isContainer = true ∧ exposure.name.isVacant = false := by
  induction exposures generalizing builder with
  | nil =>
    rw [← Except.ok.inj accepted] at composite
    exact .inl composite
  | cons exposure exposures ih =>
    rw [exposeAll] at accepted
    obtain ⟨between, first, rest⟩ := Outcome.bind_eq_ok.mp accepted
    rcases ih rest with before | ⟨other, member, parts⟩
    · obtain ⟨property, -, rfl⟩ := expose_ok first
      rcases Bool.or_eq_true_iff.mp before with already | here
      · exact .inl already
      · rw [Bool.and_eq_true, Bool.not_eq_true'] at here
        exact .inr ⟨exposure, List.mem_cons_self .., here⟩
    · exact .inr ⟨other, List.mem_cons_of_mem _ member, parts⟩

theorem build_eq_error {problem : RegistryError} (refused : builder.build = .error problem) :
    problem = .compositeName ∧ builder.composite = true := by
  rw [build] at refused
  split at refused
  next composite => exact ⟨(Except.error.inj refused).symm, composite⟩
  next => cases refused

def declared (builder : Builder) : Registry := ⟨builder.entity, builder.identityField, builder.properties⟩

theorem build_ok {registry : Registry} (built : builder.build = .ok registry) : registry = builder.declared := by
  rw [build] at built
  split at built
  next => cases built
  next => exact (Except.ok.inj built).symm

theorem uniqueNames_built {entity : String} {identityField : Value} {exposures : List Exposure}
    {registry : Registry} (accepted : (start entity identityField).exposeAll exposures = .ok builder)
    (built : builder.build = .ok registry) : UniqueNames registry.properties := by
  rw [build_ok built]
  exact uniqueNames_exposeAll accepted .nil

end Builder

end QueryGate
