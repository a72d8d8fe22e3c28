import QueryGate.Proofs.Registry.Declarations
import QueryGate.Proofs.Registry.Shadowing
import QueryGate.Registry.Workshop
/-!
Registries that are built while a builder goes on. What a builder holds are the properties of the calls that it
accepted, in their order, so that is what a registry built from it holds, and later calls do not change it. A
declaration builds what its entries build when they are exposed one by one.
-/

namespace QueryGate

open QueryGate.Outcome

/-! ## Calls -/

structure Exposure.NamesTexts (exposure : Exposure) : Prop where
  publicly : ∃ name, exposure.publicName = .text name
  canonically : exposure.name = .null ∨ ∃ name, exposure.name = .text name

structure Exposure.Declares (exposure : Exposure) (property : Property) : Prop where
  publicName : exposure.publicName = .atom property.publicName
  canonicalName : property.canonicalName = Builder.canonicalName property.publicName exposure.name
  valueType : ValueType.ofValue? exposure.type = some property.valueType
  filterable : property.filterable = exposure.filterable

inductive Verdict (entity : String) (earlier : List Exposure) (exposure : Exposure) :
    Except RegistryError Unit → Prop
  | empty (named : exposure.publicName = .text "") :
      Verdict entity earlier exposure (.error (.emptyName entity))
  | repeated {name : String} (named : exposure.publicName = .text name) (stated : name ≠ "")
      (known : ∃ other ∈ earlier, other.publicName = .text name) :
      Verdict entity earlier exposure (.error (.repeatedName entity (.text name)))
  | untyped {name : String} (named : exposure.publicName = .text name) (stated : name ≠ "")
      (fresh : ∀ other ∈ earlier, other.publicName ≠ .text name)
      (unknown : ValueType.ofValue? exposure.type = none) :
      Verdict entity earlier exposure (.error (.unknownType exposure.type))
  | accepted {name : String} {valueType : ValueType} (named : exposure.publicName = .text name)
      (stated : name ≠ "") (fresh : ∀ other ∈ earlier, other.publicName ≠ .text name)
      (known : ValueType.ofValue? exposure.type = some valueType) :
      Verdict entity earlier exposure (.ok ())

namespace Workshop

def buildings (steps : List BuildStep) : Nat :=
  steps.countP fun
    | .build => true
    | .expose _ => false

def accepted (shop : Workshop) : List BuildStep → List Exposure
  | [] => []
  | .build :: steps => (shop.step .build).1.accepted steps
  | .expose exposure :: steps =>
    match shop.step (.expose exposure) with
    | (later, .ok ()) => exposure :: later.accepted steps
    | (later, .error _) => later.accepted steps

structure Holds (entity : String) (identityField : Value) (accepted : List Exposure) (shop : Workshop) :
    Prop where
  entity : shop.builder.entity = entity
  identityField : shop.builder.identityField = identityField
  declared : List.Forall₂ Exposure.Declares accepted shop.builder.properties
  unique : UniqueNames shop.builder.properties
  plain : shop.builder.composite = false

variable {entity : String} {identityField : Value} {earlier : List Exposure} {shop : Workshop}

theorem Holds.hasName_iff (holds : Holds entity identityField earlier shop) {name : String} :
    shop.builder.hasName (.text name) = true ↔ ∃ exposure ∈ earlier, exposure.publicName = .text name := by
  simp only [Builder.hasName, List.any_eq_true, Atom.sameKey_text_iff]
  constructor
  · rintro ⟨property, member, same⟩
    obtain ⟨exposure, inside, declares⟩ := exists_source holds.declared member
    exact ⟨exposure, inside, by rw [declares.publicName, same]⟩
  · rintro ⟨exposure, member, same⟩
    obtain ⟨property, inside, declares⟩ := exists_result holds.declared member
    refine ⟨property, inside, ?_⟩
    rw [declares.publicName] at same
    exact Value.atom.inj same

/-! ## Steps -/

private theorem holds_start (entity : String) (identityField : Value) :
    Holds entity identityField [] (start entity identityField) :=
  ⟨rfl, rfl, .nil, .nil, rfl⟩

theorem step_expose_ok {exposure : Exposure} {builder : Builder}
    (accepted : shop.builder.expose exposure = .ok builder) :
    shop.step (.expose exposure) = ({ shop with builder := builder }, .ok ()) := by
  rw [step, accepted]

theorem step_expose_error {exposure : Exposure} {problem : RegistryError}
    (refused : shop.builder.expose exposure = .error problem) :
    shop.step (.expose exposure) = (shop, .error problem) := by
  rw [step, refused]

private theorem Holds.verdict (holds : Holds entity identityField earlier shop) {exposure : Exposure}
    (named : exposure.NamesTexts) : Verdict entity earlier exposure (shop.step (.expose exposure)).2 := by
  obtain ⟨name, publicly⟩ := named.publicly
  have exposing : shop.builder.expose exposure =
      if name.isEmpty then .error (.emptyName shop.builder.entity)
      else shop.builder.exposeAs (.text name) exposure := by
    rw [Builder.expose, publicly]
    rfl
  by_cases none : name = ""
  · subst none
    rw [step_expose_error exposing, holds.entity]
    exact .empty publicly
  · have stated : ¬name.isEmpty = true := by simpa using none
    rw [if_neg stated, Builder.exposeAs] at exposing
    by_cases known : shop.builder.hasName (.text name) = true
    · rw [if_pos known, holds.entity] at exposing
      rw [step_expose_error exposing]
      exact .repeated publicly none (holds.hasName_iff.mp known)
    · have fresh : ∀ other ∈ earlier, other.publicName ≠ .text name :=
        fun other member same => known (holds.hasName_iff.mpr ⟨other, member, same⟩)
      rw [if_neg known] at exposing
      cases typed : ValueType.ofValue? exposure.type with
      | none =>
        rw [typed] at exposing
        rw [step_expose_error exposing]
        exact .untyped publicly none fresh typed
      | some valueType =>
        rw [typed] at exposing
        rw [step_expose_ok exposing]
        exact .accepted publicly none fresh typed

/-- What a call that is accepted adds. -/
theorem Holds.expose (holds : Holds entity identityField earlier shop) {exposure : Exposure}
    (named : exposure.NamesTexts) {builder : Builder}
    (accepted : shop.builder.expose exposure = .ok builder) :
    Holds entity identityField (earlier ++ [exposure]) { shop with builder := builder } := by
  have unique := Builder.uniqueNames_expose accepted holds.unique
  obtain ⟨property, exposed, rfl⟩ := Builder.expose_ok accepted
  have declares : exposure.Declares property :=
    ⟨exposed.publicName, exposed.canonicalName, exposed.valueType, exposed.filterable⟩
  have single : exposure.name.isContainer = false := by
    rcases named.canonically with none | ⟨name, given⟩
    · rw [none]
      rfl
    · rw [given]
      rfl
  refine ⟨holds.entity, holds.identityField, ?_, unique, ?_⟩
  · exact List.rel_append holds.declared (.cons declares .nil)
  · rw [holds.plain, single]
    rfl

theorem Holds.build (holds : Holds entity identityField earlier shop) :
    shop.step .build =
      ({ shop with built := shop.built ++ [⟨entity, identityField, shop.builder.properties⟩] }, .ok ()) := by
  rw [step, Builder.build, holds.plain, holds.entity, holds.identityField]
  rfl

/-! ## Runs -/

private theorem run_append (before after : List BuildStep) :
    shop.run (before ++ after) = (shop.run before).run after :=
  List.foldl_append

/-- Nothing that was built is touched by a step. -/
theorem built_prefix_step (shop : Workshop) (step : BuildStep) : shop.built <+: (shop.step step).1.built := by
  cases step with
  | expose exposure =>
    cases exposed : shop.builder.expose exposure with
    | ok builder => exact ⟨[], by rw [step_expose_ok exposed, List.append_nil]⟩
    | error problem => exact ⟨[], by rw [step_expose_error exposed, List.append_nil]⟩
  | build =>
    rw [Workshop.step]
    split
    next => exact List.prefix_append ..
    next => exact List.prefix_rfl

private theorem built_prefix_run (shop : Workshop) (steps : List BuildStep) :
    shop.built <+: (shop.run steps).built := by
  induction steps generalizing shop with
  | nil => exact List.prefix_rfl
  | cons step steps ih => exact (built_prefix_step shop step).trans (ih _)

/-- After steps a builder holds what it held before and what was accepted, and each building built one registry. -/
theorem Holds.run {steps : List BuildStep} (holds : Holds entity identityField earlier shop)
    (named : ∀ exposure, .expose exposure ∈ steps → exposure.NamesTexts) :
    Holds entity identityField (earlier ++ shop.accepted steps) (shop.run steps) ∧
      (shop.run steps).built.length = shop.built.length + buildings steps := by
  -- The calls accepted before the first step and the first step itself are what was accepted before the others.
  induction steps generalizing earlier shop with
  | nil =>
    rw [accepted, List.append_nil]
    exact ⟨holds, rfl⟩
  | cons step steps ih =>
    have later : ∀ exposure, .expose exposure ∈ steps → exposure.NamesTexts :=
      fun exposure member => named exposure (List.mem_cons_of_mem _ member)
    show Holds entity identityField _ ((shop.step step).1.run steps) ∧
      ((shop.step step).1.run steps).built.length = _
    cases step with
    | build =>
      have kept : Holds entity identityField earlier (shop.step .build).1 := by
        rw [holds.build]
        exact ⟨holds.entity, holds.identityField, holds.declared, holds.unique, holds.plain⟩
      obtain ⟨held, counted⟩ := ih kept later
      refine ⟨held, ?_⟩
      rw [counted, holds.build, buildings, buildings, List.countP_cons, List.length_append]
      simp only [List.length_singleton, if_true]
      omega
    | expose exposure =>
      cases exposed : shop.builder.expose exposure with
      | ok builder =>
        obtain ⟨held, counted⟩ := ih (holds.expose (named exposure (List.mem_cons_self ..)) exposed) later
        rw [accepted, step_expose_ok exposed]
        rw [List.append_assoc] at held
        exact ⟨held, counted⟩
      | error problem =>
        rw [accepted, step_expose_error exposed]
        exact ih holds later

end Workshop

/-! ## Answers -/

namespace Registry

structure Answers (registry : Registry) (properties : List Property) : Prop where
  size : registry.size = properties.length
  filterable : registry.filterable = properties.filter Property.isFilterable
  contains (name : String) :
    registry.contains name = true ↔ ∃ property ∈ properties, property.publicName = .text name
  lookup (name : String) (property : Property) :
    registry.lookup name = some property ↔ property ∈ properties ∧ property.publicName = .text name
  resolve (name : String) (property : Property) :
    registry.resolve name = some property ↔ StandsFor properties name property
  unresolved (name : String) :
    registry.resolve name = none ↔
      ∀ property ∈ properties, property.publicName ≠ .text name ∧ property.canonicalName ≠ .text name

private theorem answers_of_uniqueNames {registry : Registry} (unique : UniqueNames registry.properties) :
    registry.Answers registry.properties where
  size := rfl
  filterable := rfl
  contains name := by
    rw [contains, Option.isSome_iff_ne_none, Ne, lookup_eq_none_iff]
    push Not
    rfl
  lookup name property := by
    constructor
    · intro found
      exact ⟨mem_of_lookup found, by simpa using List.find?_some found⟩
    · rintro ⟨member, same⟩
      exact lookup_of_uniqueNames unique member same
  resolve name property := resolve_eq_some_iff unique
  unresolved name := by
    rw [resolve, Option.or_eq_none_iff, lookup_eq_none_iff, byCanonicalName]
    simp [← forall_and]

end Registry

private theorem exposeAll_of_declared {entity : String} {declaration : Value} {registry : Registry}
    (declared : Registry.ofDeclaration entity declaration = .ok registry) :
    ∃ entries identity exposures, Layout declaration entries identity ∧ List.Forall₂ Exposes entries exposures ∧
      ((Builder.start entity identity).exposeAll exposures >>= Builder.build) = .ok registry := by
  obtain ⟨entries, identity, layout⟩ := exists_layout declared
  rw [ofDeclaration_of_layout layout] at declared
  obtain ⟨builder, exposed, built⟩ := bind_eq_ok.mp declared
  obtain ⟨-, exposures, matched, ran⟩ := exposeEntries_eq_ok_iff.mp exposed
  exact ⟨entries, identity, exposures, layout, matched, bind_eq_ok.mpr ⟨builder, ran, built⟩⟩

/-- A call is refused if its name is empty or taken or its type is unknown, and then nothing changes. The refusal
is reported unless the type cannot be written. What is built holds the properties of the calls accepted before it,
whatever comes after it, and answers from them. A declaration builds what its entries build. -/
theorem builder_runs (entity : String) (identityField : Value) (before : List BuildStep)
    (named : ∀ exposure, .expose exposure ∈ before → exposure.NamesTexts) :
    let start := Workshop.start entity identityField
    let shop := start.run before
    (∀ exposure, exposure.NamesTexts →
      Verdict entity (start.accepted before) exposure (shop.step (.expose exposure)).2 ∧
      ∀ problem, (shop.step (.expose exposure)).2 = .error problem →
        (shop.step (.expose exposure)).1 = shop ∧
        (IsReported problem ↔ ¬(problem = .unknownType exposure.type ∧ exposure.type.HoldsOverlong))) ∧
    (∃ registry,
      (∀ after, (start.run (before ++ .build :: after)).built[Workshop.buildings before]? = some registry) ∧
      registry.entity = entity ∧ registry.identityField = identityField ∧
      List.Forall₂ Exposure.Declares (start.accepted before) registry.properties ∧
      UniqueNames registry.properties ∧ registry.Answers registry.properties) ∧
    ∀ declaration registry, Registry.ofDeclaration entity declaration = .ok registry →
      ∃ entries identity exposures, Layout declaration entries identity ∧
        List.Forall₂ Exposes entries exposures ∧
        ((Builder.start entity identity).exposeAll exposures >>= Builder.build) = .ok registry := by
  intro start shop
  obtain ⟨holds, counted⟩ := (Workshop.holds_start entity identityField).run named
  change Workshop.Holds entity identityField (start.accepted before) shop at holds
  change shop.built.length = 0 + Workshop.buildings before at counted
  rw [Nat.zero_add] at counted
  refine ⟨fun exposure texts => ⟨holds.verdict texts, ?_⟩, ?_, fun _ _ => exposeAll_of_declared⟩
  · intro problem refused
    cases exposed : shop.builder.expose exposure with
    | ok builder =>
      rw [Workshop.step_expose_ok exposed] at refused
      cases refused
    | error cause =>
      rw [Workshop.step_expose_error exposed] at refused ⊢
      obtain rfl := Except.error.inj refused
      obtain ⟨name, publicly⟩ := texts.publicly
      refine ⟨rfl, ?_, fun told => ?_⟩
      · rintro reported ⟨rfl, long⟩
        exact not_isReported_unknownType long reported
      · exact (Builder.expose_eq_error publicly exposed).resolve_right fun untold => told untold.2
  · refine ⟨⟨entity, identityField, shop.builder.properties⟩, fun after => ?_, rfl, rfl, holds.declared,
      holds.unique, Registry.answers_of_uniqueNames holds.unique⟩
    obtain ⟨later, built⟩ := Workshop.built_prefix_run (shop.step .build).1 after
    rw [Workshop.run_append, ← counted]
    show ((shop.step .build).1.run after).built[shop.built.length]? = _
    rw [← built, holds.build]
    simp

/-- A registry is built after one call more than the first one and a refused call for each reason. It stays what it
is when a later call takes the canonical name of its first property. -/
theorem builder_runs_snapshots :
    let typeName : Exposure := ⟨.text "typeName", .text "type_name", .null, .bool true⟩
    let created : Exposure := ⟨.text "created", .null, .text "Date", .bool false⟩
    let unnamed : Exposure := ⟨.text "", .null, .null, .bool true⟩
    let untyped : Exposure := ⟨.text "size", .null, .text "uuid", .bool true⟩
    let before : List BuildStep :=
      [.expose typeName, .build, .expose unnamed, .expose created, .expose untyped, .expose created]
    let start := Workshop.start "files" (.text "_id")
    let built : Registry := ⟨"files", .text "_id",
      [⟨.text "typeName", .text "type_name", .plain, .bool true⟩,
        ⟨.text "created", .text "created", .date, .bool false⟩]⟩
    (∀ exposure, .expose exposure ∈ before → exposure.NamesTexts) ∧
      start.accepted before = [typeName, created] ∧ Workshop.buildings before = 1 ∧
      (∀ after, (start.run (before ++ .build :: after)).built[1]? = some built) ∧
      (start.run (before ++ [.build, .expose ⟨.text "type_name", .null, .null, .bool true⟩, .build])).built[1]? =
        some built ∧
      built.Answers built.properties := by
  intro typeName created unnamed untyped before start built
  have named : ∀ exposure, .expose exposure ∈ before → exposure.NamesTexts := by
    intro exposure member
    simp only [before, List.mem_cons, BuildStep.expose.injEq, reduceCtorEq, List.not_mem_nil, or_false,
      false_or] at member
    rcases member with rfl | rfl | rfl | rfl | rfl
    · exact ⟨⟨_, rfl⟩, .inr ⟨_, rfl⟩⟩
    all_goals exact ⟨⟨_, rfl⟩, .inl rfl⟩
  obtain ⟨-, ⟨registry, kept, -, -, -, -, answers⟩, -⟩ := builder_runs "files" (.text "_id") before named
  have first : (start.run (before ++ [.build])).built[1]? = some built := by rfl
  obtain rfl : registry = built := Option.some.inj ((kept []).symm.trans first)
  exact ⟨named, by rfl, by rfl, kept, kept _, answers⟩

private theorem ofValue?_eq_none_of_holdsOverlong {type : Value} (long : type.HoldsOverlong) :
    ValueType.ofValue? type = none := by
  unfold ValueType.ofValue?
  split
  next =>
    obtain ⟨_, same, -⟩ := Value.holdsOverlong_atom.mp long
    cases same
  next =>
    rw [Value.plain?_eq_none_iff.mpr long]
    rfl

/-- A call with a number for its type that cannot be written is refused without a report. -/
theorem overlong_type_unreported :
    let exposure : Exposure := ⟨.text "size", .null, .int Number.leastOverlong, .bool true⟩
    let start := Workshop.start "files" (.text "_id")
    let problem : RegistryError := .unknownType (.int Number.leastOverlong)
    exposure.NamesTexts ∧ ValueType.ofValue? exposure.type = none ∧
      start.step (.expose exposure) = (start, .error problem) ∧ ¬IsReported problem := by
  intro exposure start problem
  have long : (Value.int Number.leastOverlong).HoldsOverlong :=
    Value.holdsOverlong_int.mpr Number.isOverlong_leastOverlong
  have unknown : ValueType.ofValue? (.int Number.leastOverlong) = none := ofValue?_eq_none_of_holdsOverlong long
  have refused {type : Value} (unknown : ValueType.ofValue? type = none) :
      start.builder.expose ⟨.text "size", .null, type, .bool true⟩ = .error (.unknownType type) := by
    change start.builder.exposeAs (.text "size") ⟨.text "size", .null, type, .bool true⟩ = _
    simp only [Builder.exposeAs, unknown]
    rfl
  exact ⟨⟨⟨_, rfl⟩, .inl rfl⟩, unknown, Workshop.step_expose_error (refused unknown),
    not_isReported_unknownType long⟩

end QueryGate
