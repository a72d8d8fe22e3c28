import Mathlib.Data.List.Forall2
import QueryGate.Proofs.Registry.Building
import QueryGate.Registry.Declaration
import QueryGate.Proofs.Value.Writing
import QueryGate.Report
/-!
Registries from declarations. The entries of a declaration lie in it as a whole or under a key of their own,
and each is exposed under its key with the options it gives. Options that are given must be a mapping with names
of options as keys; whatever counts as not given stands for no options at all.
-/

namespace QueryGate

open QueryGate.Outcome

/-! ## Layouts -/

def identityOf (members : Entries) : Value :=
  let named := (Entries.field? members "identity_field").getD .null
  if named.isVacant then .text defaultIdentityField else named

inductive Layout : Value → Entries → Value → Prop
  | flat {members : Entries} (whole : Entries.field? members "properties" = none) :
      Layout (.map members) members (.text defaultIdentityField)
  | vacant {members : Entries} {properties : Value}
      (given : Entries.field? members "properties" = some properties) (none : properties.isVacant = true) :
      Layout (.map members) [] (identityOf members)
  | nested {members entries : Entries}
      (given : Entries.field? members "properties" = some (.map entries)) :
      Layout (.map members) entries (identityOf members)

variable {entity : String} {declaration identity : Value} {entries : Entries}

private theorem splitDeclaration_of_layout {members : Entries} (layout : Layout (.map members) entries identity) :
    splitDeclaration entity members = .ok (entries, identity) := by
  unfold splitDeclaration
  cases layout with
  | flat whole => rw [whole]
  | vacant given none =>
    rw [given]
    exact if_pos none
  | nested given =>
    rw [given]
    cases entries <;> rfl

theorem ofDeclaration_of_layout (layout : Layout declaration entries identity) :
    Registry.ofDeclaration entity declaration =
      exposeEntries (Builder.start entity identity) entries >>= Builder.build := by
  have split {members : Entries} (layout : Layout (.map members) entries identity) :
      Registry.ofDeclaration entity (.map members) =
        exposeEntries (Builder.start entity identity) entries >>= Builder.build := by
    rw [Registry.ofDeclaration, splitDeclaration_of_layout layout]
    rfl
  cases layout with
  | flat whole => exact split (.flat whole)
  | vacant given none => exact split (.vacant given none)
  | nested given => exact split (.nested given)

theorem exists_layout {registry : Registry}
    (declared : Registry.ofDeclaration entity declaration = .ok registry) :
    ∃ entries identity, Layout declaration entries identity := by
  unfold Registry.ofDeclaration at declared
  split at declared
  next members =>
    cases given : Entries.field? members "properties" with
    | none => exact ⟨_, _, .flat given⟩
    | some properties =>
      obtain ⟨_, divided, -⟩ := bind_eq_ok.mp declared
      rw [splitDeclaration, given] at divided
      by_cases none : properties.isVacant = true
      · exact ⟨_, _, .vacant given none⟩
      · simp only [none, Bool.false_eq_true, ↓reduceIte] at divided
        split at divided
        next entries => exact ⟨_, _, .nested given⟩
        next => cases divided
  next => cases declared

/-! ## Options -/

inductive IsOptions : Value → Prop
  | none : IsOptions .null
  | fields {fields : Entries} (known : ∀ key ∈ Entries.keys fields, isOptionName key = true) :
      IsOptions (.map fields)

def fieldsOf : Value → Entries
  | .map fields => fields
  | _ => []

/-- An entry exposes its key as a text, with the options it gives. -/
def Exposes (entry : Atom × Value) (exposure : Exposure) : Prop :=
  ∃ name, entry.1.plain? = some name ∧ exposure = exposureOfOptions name (fieldsOf entry.2)

variable {name : String} {key : Atom} {options : Value}

theorem checkOptions_eq_ok_iff {fields : Entries} :
    checkOptions entity name fields = .ok () ↔ ∀ key ∈ Entries.keys fields, isOptionName key = true := by
  rw [checkOptions]
  have known : ((Entries.keys fields).filter fun key => !isOptionName key).isEmpty = true ↔
      ∀ key ∈ Entries.keys fields, isOptionName key = true := by
    simp [List.isEmpty_iff, List.filter_eq_nil_iff]
  by_cases none : ((Entries.keys fields).filter fun key => !isOptionName key).isEmpty = true
  · exact iff_of_true (if_pos none) (known.mp none)
  · rw [if_neg none]
    refine iff_of_false ?_ (mt known.mpr none)
    split <;> exact nofun

theorem exposureOfEntry_eq_ok_iff {exposure : Exposure} :
    exposureOfEntry entity key options = .ok exposure ↔
      (options.isVacant = true ∨ IsOptions options) ∧ Exposes (key, options) exposure := by
  unfold exposureOfEntry
  cases written : key.plain? with
  | none => simp [Exposes, written]
  | some name =>
    have exposes : Exposes (key, options) exposure ↔
        exposureOfOptions name (fieldsOf options) = exposure := by
      simp [Exposes, written, eq_comm]
    rw [exposes]
    by_cases none : options.isVacant = true
    · have blank : fieldsOf options = [] := by
        cases options with
        | map fields => exact List.isEmpty_iff.mp none
        | _ => rfl
      simp [none, blank]
    · change (if _ then _ else _) = _ ↔ _
      rw [if_neg none, or_iff_right none]
      cases options with
      | map fields =>
        rw [bind_eq_ok]
        constructor
        · rintro ⟨_, known, same⟩
          exact ⟨.fields (checkOptions_eq_ok_iff.mp known), Except.ok.inj same⟩
        · rintro ⟨valid, same⟩
          cases valid with
          | fields known => exact ⟨(), checkOptions_eq_ok_iff.mpr known, congrArg Except.ok same⟩
      | atom leaf =>
        refine iff_of_false nofun ?_
        rintro ⟨valid, -⟩
        cases valid
        exact none rfl
      | list items =>
        refine iff_of_false nofun ?_
        rintro ⟨valid, -⟩
        cases valid

/-! ## Sorted names -/

variable {α : Type} {below : α → α → Bool}

private theorem fallingRun_append (below : α → α → Bool) (before : α) (items : List α) :
    (fallingRun below before items).1 ++ (fallingRun below before items).2 = items := by
  induction items generalizing before with
  | nil => rfl
  | cons item items ih =>
    rw [fallingRun]
    split
    next => exact congrArg (item :: ·) (ih item)
    next => rfl

private theorem risingRun_append (below : α → α → Bool) (before : α) (items : List α) :
    (risingRun below before items).1 ++ (risingRun below before items).2 = items := by
  induction items generalizing before with
  | nil => rfl
  | cons item items ih =>
    rw [risingRun]
    split
    next => rfl
    next => exact congrArg (item :: ·) (ih item)

private theorem leadingRun_perm (items : List α) :
    ((leadingRun below items).1 ++ (leadingRun below items).2).Perm items := by
  unfold leadingRun
  split
  next => exact .rfl
  next => exact .rfl
  next first second rest =>
    split
    next =>
      have same := fallingRun_append below second rest
      have turned (run : List α) : (run.reverse ++ [second, first]).Perm (first :: second :: run) :=
        List.perm_append_comm.trans
          ((List.Perm.swap first second _).trans (((List.reverse_perm run).cons second).cons first))
      refine ((turned _).append_right _).trans ?_
      rw [List.cons_append, List.cons_append, same]
    next => exact .of_eq (congrArg (first :: second :: ·) (risingRun_append below second rest))

private theorem insertByHalves_perm (sorted : List α) (item : α) :
    (insertByHalves below sorted item).Perm (item :: sorted) := by
  refine List.perm_middle.trans ?_
  rw [List.take_append_drop]

private theorem sortByHalves_perm (items : List α) : (sortByHalves below items).Perm items := by
  have put (others sorted : List α) :
      (others.foldl (insertByHalves below) sorted).Perm (sorted ++ others) := by
    induction others generalizing sorted with
    | nil => rw [List.foldl_nil, List.append_nil]
    | cons item others ih =>
      refine (ih _).trans (((insertByHalves_perm sorted item).append_right others).trans ?_)
      exact List.perm_middle.symm
  exact (put _ _).trans (leadingRun_perm items)

private theorem sortAtoms?_perm {atoms sorted : List Atom} (ordered : sortAtoms? atoms = some sorted) :
    sorted.Perm atoms := by
  unfold sortAtoms? at ordered
  split at ordered
  next =>
    obtain rfl := Option.some.inj ordered
    exact sortByHalves_perm atoms
  next => cases ordered

/-! ## Refusals -/

/-- A refusal that callers are told about. -/
def IsReported (problem : RegistryError) : Prop :=
  ∃ message, problem.report? = some ⟨.registry, message, []⟩

theorem isReported_or_report?_eq_none (problem : RegistryError) :
    IsReported problem ∨ problem.report? = none := by
  unfold IsReported RegistryError.report?
  cases problem.message? with
  | none => exact .inr rfl
  | some message => exact .inl ⟨message, rfl⟩

theorem not_isReported_unknownType {type : Value} (long : type.HoldsOverlong) :
    ¬IsReported (.unknownType type) := by
  rintro ⟨message, reported⟩
  rw [RegistryError.report?, RegistryError.message?, Value.literal?_eq_none_iff.mpr long] at reported
  cases reported

/-- Options with unknown names that cannot be put in order. -/
inductive IsMixed : Value → Prop
  | fields {fields : Entries}
      (unordered : sortAtoms? ((Entries.keys fields).filter fun key => !isOptionName key) = none) :
      IsMixed (.map fields)

/-- Entries whose refusal cannot be told: for a number that cannot be written, or for unknown names of options
that cannot be put in order. -/
inductive IsUntold : Atom × Value → Prop
  | name {key : Atom} {options : Value} (long : key.IsOverlong) : IsUntold (key, options)
  | mixed {key : Atom} {options : Value} (mixed : IsMixed options) : IsUntold (key, options)
  | option {key option : Atom} {fields : Entries} (member : option ∈ Entries.keys fields)
      (long : option.IsOverlong) : IsUntold (key, .map fields)
  | type {key : Atom} {fields : Entries} {type : Value} (given : Entries.field? fields "type" = some type)
      (long : type.HoldsOverlong) : IsUntold (key, .map fields)

/-- Entries are refused with a report, or for one that leaves none. -/
def IsDue (entries : Entries) (problem : RegistryError) : Prop :=
  IsReported problem ∨ problem.report? = none ∧ ∃ entry ∈ entries, IsUntold entry

private theorem checkOptions_eq_error {fields : Entries} {problem : RegistryError}
    (refused : checkOptions entity name fields = .error problem) :
    IsReported problem ∨ problem.report? = none ∧ IsUntold (key, .map fields) := by
  rw [checkOptions] at refused
  split at refused
  next => cases refused
  next =>
    split at refused
    next sorted ordered =>
      obtain rfl := Except.error.inj refused
      refine (isReported_or_report?_eq_none _).imp_right fun untold => ⟨untold, ?_⟩
      have long : (Value.list (sorted.map Value.atom)).literal? = none := by
        simpa [RegistryError.report?, RegistryError.message?] using untold
      obtain ⟨item, member, overlong⟩ := Value.holdsOverlong_list.mp (Value.literal?_eq_none_iff.mp long)
      obtain ⟨option, inside, rfl⟩ := List.mem_map.mp member
      have unknown := (sortAtoms?_perm ordered).mem_iff.mp inside
      exact .option (List.mem_filter.mp unknown |>.1) (Value.holdsOverlong_atom.mp overlong)
    next unordered =>
      obtain rfl := Except.error.inj refused
      exact .inr ⟨rfl, .mixed (.fields unordered)⟩

private theorem exposureOfEntry_eq_error {problem : RegistryError}
    (refused : exposureOfEntry entity key options = .error problem) :
    IsReported problem ∨ problem.report? = none ∧ IsUntold (key, options) := by
  unfold exposureOfEntry at refused
  split at refused
  next unwritten =>
    obtain rfl := Except.error.inj refused
    exact .inr ⟨rfl, .name (Atom.plain?_eq_none_iff.mp unwritten)⟩
  next name _ =>
    split at refused
    next => cases refused
    next =>
      split at refused
      next fields _ =>
        cases checked : checkOptions entity name fields with
        | ok =>
          rw [checked] at refused
          cases refused
        | error flaw =>
          rw [checked] at refused
          obtain rfl := Except.error.inj refused
          exact checkOptions_eq_error checked
      next =>
        obtain rfl := Except.error.inj refused
        exact .inl ⟨_, rfl⟩

/-- A call under a text fails with a report, except for a type that cannot be written. -/
theorem Builder.expose_eq_error {builder : Builder} {exposure : Exposure} {problem : RegistryError}
    (named : exposure.publicName = .text name) (refused : builder.expose exposure = .error problem) :
    IsReported problem ∨
      problem.report? = none ∧ problem = .unknownType exposure.type ∧ exposure.type.HoldsOverlong := by
  rw [expose, named] at refused
  split at refused
  next =>
    obtain rfl := Except.error.inj refused
    exact .inl ⟨_, rfl⟩
  next =>
    simp only [exposeAs] at refused
    split at refused
    next =>
      obtain rfl := Except.error.inj refused
      exact .inl ⟨_, rfl⟩
    next =>
      split at refused
      next =>
        obtain rfl := Except.error.inj refused
        refine (isReported_or_report?_eq_none _).imp_right fun untold => ⟨untold, rfl, ?_⟩
        have long : exposure.type.literal? = none := by
          simpa [RegistryError.report?, RegistryError.message?] using untold
        exact Value.literal?_eq_none_iff.mp long
      next => cases refused

theorem Exposes.publicName {entry : Atom × Value} {exposure : Exposure} (exposes : Exposes entry exposure) :
    ∃ name, exposure.publicName = .text name := by
  obtain ⟨name, -, rfl⟩ := exposes
  exact ⟨name, rfl⟩

/-- The type of an entry that cannot be written is one of its options. -/
theorem Exposes.isUntold {entry : Atom × Value} {exposure : Exposure} (exposes : Exposes entry exposure)
    (long : exposure.type.HoldsOverlong) : IsUntold entry := by
  rcases entry with ⟨key, options⟩
  obtain ⟨name, -, rfl⟩ := exposes
  change ((Entries.field? (fieldsOf options) "type").getD .null).HoldsOverlong at long
  cases given : Entries.field? (fieldsOf options) "type" with
  | none =>
    rw [given] at long
    obtain ⟨_, same, -⟩ := Value.holdsOverlong_atom.mp long
    cases same
  | some type =>
    rw [given] at long
    cases options with
    | map fields => exact .type given long
    | _ => cases given

/-! ## Entries -/

theorem exposeEntries_eq_ok_iff {builder result : Builder} :
    exposeEntries builder entries = .ok result ↔
      (∀ entry ∈ entries, entry.2.isVacant = true ∨ IsOptions entry.2) ∧
        ∃ exposures, List.Forall₂ Exposes entries exposures ∧ builder.exposeAll exposures = .ok result := by
  induction entries generalizing builder with
  | nil => simp [exposeEntries, Builder.exposeAll]
  | cons entry entries ih =>
    rcases entry with ⟨key, options⟩
    rw [exposeEntries, List.forall_mem_cons]
    simp only [bind_eq_ok, exposureOfEntry_eq_ok_iff, ih]
    constructor
    · rintro ⟨exposure, ⟨here, exposes⟩, between, exposed, later, exposures, matched, rest⟩
      exact ⟨⟨here, later⟩, exposure :: exposures, .cons exposes matched,
        bind_eq_ok.mpr ⟨between, exposed, rest⟩⟩
    · rintro ⟨⟨here, later⟩, _, matched, ran⟩
      obtain ⟨exposure, exposures, exposes, others, rfl⟩ := List.forall₂_cons_left_iff.mp matched
      obtain ⟨between, exposed, rest⟩ := bind_eq_ok.mp ran
      exact ⟨exposure, ⟨here, exposes⟩, between, exposed, later, exposures, others, rest⟩

theorem exposeEntries_eq_error {builder : Builder} {problem : RegistryError}
    (refused : exposeEntries builder entries = .error problem) : IsDue entries problem := by
  induction entries generalizing builder with
  | nil => cases refused
  | cons entry entries ih =>
    rcases entry with ⟨key, options⟩
    rw [exposeEntries] at refused
    have first {flaw : RegistryError} (untold : flaw.report? = none ∧ IsUntold (key, options)) :
        flaw.report? = none ∧ ∃ entry ∈ (key, options) :: entries, IsUntold entry :=
      ⟨untold.1, _, List.mem_cons_self .., untold.2⟩
    cases stated : exposureOfEntry builder.entity key options with
    | error flaw =>
      rw [stated] at refused
      obtain rfl := Except.error.inj refused
      exact (exposureOfEntry_eq_error stated).imp_right first
    | ok exposure =>
      rw [stated] at refused
      obtain ⟨-, exposes⟩ := exposureOfEntry_eq_ok_iff.mp stated
      change (builder.expose exposure >>= fun builder => exposeEntries builder entries) = _ at refused
      cases exposed : builder.expose exposure with
      | error flaw =>
        -- The key of an entry is exposed as a text, so the call never meets a name with parts.
        rw [exposed] at refused
        obtain rfl := Except.error.inj refused
        obtain ⟨name, publicly⟩ := exposes.publicName
        exact (Builder.expose_eq_error publicly exposed).imp_right fun ⟨untold, _, long⟩ =>
          first ⟨untold, exposes.isUntold long⟩
      | ok between =>
        rw [exposed] at refused
        refine (ih refused).imp_right ?_
        rintro ⟨untold, entry, member, unsaid⟩
        exact ⟨untold, entry, List.mem_cons_of_mem _ member, unsaid⟩

def withoutBlank (entry : Atom × Value) : Atom × Value :=
  (entry.1, if entry.2.isVacant then .null else entry.2)

private theorem exposeEntries_withoutBlank (builder : Builder) (entries : Entries) :
    exposeEntries builder (entries.map withoutBlank) = exposeEntries builder entries := by
  induction entries generalizing builder with
  | nil => rfl
  | cons entry entries ih =>
    rcases entry with ⟨key, options⟩
    have same : exposureOfEntry builder.entity key (withoutBlank (key, options)).2 =
        exposureOfEntry builder.entity key options := by
      rw [withoutBlank]
      by_cases none : options.isVacant = true
      · rw [if_pos none]
        unfold exposureOfEntry
        simp only [if_pos none]
        rfl
      · rw [if_neg none]
    rw [List.map_cons]
    show (exposureOfEntry builder.entity key (withoutBlank (key, options)).2 >>= _) = _
    rw [same, exposeEntries]
    simp only [ih]

/-- Every property that a declaration exposes has options, and options that are none are refused with a
report. -/
def VetsOptions (entity : String) (declaration : Value) (entries : Entries) : Prop :=
  (∀ registry, Registry.ofDeclaration entity declaration = .ok registry →
    ∀ entry ∈ entries, IsOptions entry.2) ∧
    ((∃ entry ∈ entries, ¬IsOptions entry.2) →
      ∃ problem, Registry.ofDeclaration entity declaration = .error problem ∧ IsReported problem)

/-- Nothing but options and what counts as not given gets past a declaration, and what counts as not given
stands for none. So a declaration vets its options as long as nothing but none and the empty mapping counts as
not given in it, unknown names of options can be put in order and no number in it is too long to be written. -/
theorem declared_options (entity : String) (declaration : Value) :
    (∀ registry, Registry.ofDeclaration entity declaration = .ok registry →
      ∃ entries identity, Layout declaration entries identity ∧
        ∀ entry ∈ entries, entry.2.isVacant = true ∨ IsOptions entry.2) ∧
    ∀ entries identity, Layout declaration entries identity →
      ((∃ entry ∈ entries, entry.2.isVacant = false ∧ ¬IsOptions entry.2) →
        ∃ problem, Registry.ofDeclaration entity declaration = .error problem ∧ IsDue entries problem) ∧
      (∀ other, Layout other (entries.map withoutBlank) identity →
        Registry.ofDeclaration entity other = Registry.ofDeclaration entity declaration) ∧
      ((∀ entry ∈ entries, entry.2.isVacant = true → IsOptions entry.2) →
        (∀ entry ∈ entries, ¬IsUntold entry) → VetsOptions entity declaration entries) := by
  have accepted {entries : Entries} {identity : Value} (layout : Layout declaration entries identity)
      {registry : Registry} (declared : Registry.ofDeclaration entity declaration = .ok registry) :
      ∀ entry ∈ entries, entry.2.isVacant = true ∨ IsOptions entry.2 := by
    rw [ofDeclaration_of_layout layout] at declared
    obtain ⟨_, exposed, -⟩ := bind_eq_ok.mp declared
    exact (exposeEntries_eq_ok_iff.mp exposed).1
  have refused {entries : Entries} {identity : Value} (layout : Layout declaration entries identity)
      (foreign : ∃ entry ∈ entries, entry.2.isVacant = false ∧ ¬IsOptions entry.2) :
      ∃ problem, Registry.ofDeclaration entity declaration = .error problem ∧ IsDue entries problem := by
    rw [ofDeclaration_of_layout layout]
    cases exposed : exposeEntries (Builder.start entity identity) entries with
    | error problem => exact ⟨problem, rfl, exposeEntries_eq_error exposed⟩
    | ok builder =>
      obtain ⟨entry, member, given, unfit⟩ := foreign
      rcases (exposeEntries_eq_ok_iff.mp exposed).1 entry member with none | fit
      · rw [given] at none
        cases none
      · exact absurd fit unfit
  refine ⟨fun registry declared => ?_, fun entries identity layout => ⟨refused layout, ?_, ?_⟩⟩
  · obtain ⟨entries, identity, layout⟩ := exists_layout declared
    exact ⟨entries, identity, layout, accepted layout declared⟩
  · intro other same
    rw [ofDeclaration_of_layout same, ofDeclaration_of_layout layout, exposeEntries_withoutBlank]
  · intro stated told
    refine ⟨fun registry declared entry member => ?_, fun ⟨entry, member, unfit⟩ => ?_⟩
    · exact (accepted layout declared entry member).elim (stated entry member) id
    · have given : entry.2.isVacant = false := Bool.eq_false_iff.mpr (mt (stated entry member) unfit)
      obtain ⟨problem, failed, reported | ⟨-, untold⟩⟩ := refused layout ⟨entry, member, given, unfit⟩
      · exact ⟨problem, failed, reported⟩
      · obtain ⟨other, inside, unsaid⟩ := untold
        exact absurd unsaid (told other inside)

/-- A flag in the place of options, behind a property without options, is refused. -/
theorem declared_options_flag :
    let entries : Entries := [(.text "name", .null), (.text "secret", .bool true)]
    let declaration : Value := .map [(.text "identity_field", .text "uuid"), (.text "properties", .map entries)]
    Layout declaration entries (.text "uuid") ∧ VetsOptions "files" declaration entries ∧
      ∃ problem, Registry.ofDeclaration "files" declaration = .error problem ∧
        problem.message? = some "Options for 'files.secret' must be a mapping, got bool" := by
  intro entries declaration
  have layout : Layout declaration entries (.text "uuid") := .nested rfl
  have unfit : ¬IsOptions (.bool true) := nofun
  obtain ⟨-, -, vets⟩ := (declared_options "files" declaration).2 entries (.text "uuid") layout
  have vetted : VetsOptions "files" declaration entries := by
    refine vets ?_ ?_
    · rintro entry member vacant
      simp only [entries, List.mem_cons, List.not_mem_nil, or_false] at member
      rcases member with rfl | rfl
      · exact .none
      · cases vacant
    · rintro entry member untold
      simp only [entries, List.mem_cons, List.not_mem_nil, or_false] at member
      rcases member with rfl | rfl
      all_goals
        cases untold with
        | name long => exact Atom.not_isOverlong_text _ long
        | mixed mixed => cases mixed
  obtain ⟨problem, failed, -⟩ := vetted.2 ⟨_, List.mem_cons_of_mem _ (List.mem_cons_self ..), unfit⟩
  exact ⟨layout, vetted, problem, failed, by rw [← Except.error.inj failed]; rfl⟩

/-- A property that is declared as false can be filtered on, and unknown names of options that cannot be put in
order are refused without a report, as is a name of a property that cannot be written. -/
theorem false_exposes_property :
    let declaration : Value := .map [(.text "secret", .bool false)]
    let secret : Property := ⟨.text "secret", .text "secret", .plain, .bool true⟩
    let registry : Registry := ⟨"files", .text "_id", [secret]⟩
    let options : Value := .map [(.int 1, .int 2), (.text "a", .int 4)]
    Layout declaration [(.text "secret", .bool false)] (.text "_id") ∧ ¬IsOptions (.bool false) ∧
      Registry.ofDeclaration "files" declaration = .ok registry ∧ registry.filterable = [secret] ∧
      ¬VetsOptions "files" declaration [(.text "secret", .bool false)] ∧ ¬IsOptions options ∧
      Registry.ofDeclaration "files" (.map [(.text "secret", options)]) = .error .mixedOptions ∧
      Registry.ofDeclaration "files" (.map [(.int Number.leastOverlong, .bool true)]) = .error .overlongName ∧
      ¬IsReported .mixedOptions ∧ ¬IsReported .overlongName := by
  intro declaration secret registry options
  have layout : Layout declaration [(.text "secret", .bool false)] (.text "_id") := .flat rfl
  have unfit : ¬IsOptions (.bool false) := nofun
  have exposed : Registry.ofDeclaration "files" declaration = .ok registry := by rfl
  have slips : ¬VetsOptions "files" declaration [(.text "secret", .bool false)] :=
    fun vets => unfit (vets.1 registry exposed _ (List.mem_cons_self ..))
  have unknown : ¬IsOptions (.map [(.int 1, .int 2), (.text "a", .int 4)]) := by
    intro valid
    cases valid with
    | fields known => exact absurd (known (.int 1) (List.mem_cons_self ..)) (by decide)
  have unwritten : (Atom.int Number.leastOverlong).plain? = none :=
    Atom.plain?_eq_none_iff.mpr (Atom.isOverlong_int.mpr Number.isOverlong_leastOverlong)
  have overlong : Registry.ofDeclaration "files" (.map [(.int Number.leastOverlong, .bool true)]) =
      .error .overlongName := by
    rw [ofDeclaration_of_layout (.flat rfl), exposeEntries, exposureOfEntry, unwritten]
    rfl
  exact ⟨layout, unfit, exposed, rfl, slips, unknown, rfl, overlong, nofun, nofun⟩

end QueryGate
