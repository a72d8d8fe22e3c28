import Mathlib.Data.List.Induction
import Mathlib.Data.List.Nodup
import QueryGate.Proofs.Pairs
import QueryGate.Proofs.Registry.Declarations
import QueryGate.Proofs.Yaml.Keys
import QueryGate.Registry.Document
/-!
Registries loaded from a file. Each entity of the document makes one registry under its key as a text, and of
those with one text the last is kept, so a registry is lost exactly if two keys differ but not as texts. What is
refused is reported, unless the path or the bytes mean nothing, the refusal cannot be told, or a canonical name has
parts. All this holds for any reader of documents that gives a value or calls the document malformed.
-/

namespace QueryGate

open QueryGate.Outcome

/-! ## Readers -/

/-- What is known of a reader of documents. A text is read as a value or found malformed. Bytes that spell no text
are no document, and unless the text before them is malformed already, the reader says what they are. No map has a
key twice. -/
structure Documented (reader : DocumentReader) : Prop where
  spelled {data : List UInt8} {text : String} (spelled : Yaml.textOfBytes? data = some text) :
    (∃ value, reader data = .ok value) ∨ reader data = .error .malformed
  garbled {data : List UInt8} (garbled : Yaml.textOfBytes? data = none) :
    reader data = .error .undecodable ∨ reader data = .error .malformed
  distinct {data : List UInt8} {value : Value} (read : reader data = .ok value) : value.HasDistinctKeys

/-! ## What a file declares -/

variable {reader : DocumentReader}

inductive Declares (reader : DocumentReader) : FileContent → Entries → Prop
  | document {data : List UInt8} {members entities : Entries} (read : reader data = .ok (.map members))
      (given : Entries.field? members "entities" = some (.map entities)) :
      Declares reader (.bytes data) entities

/-- The declaration of an entity; nothing is declared by what counts as not given. -/
def declarationOf (entity : Atom × Value) : Value := if entity.2.isVacant then .empty else entity.2

def Makes (entity : Atom × Value) (entry : String × Registry) : Prop :=
  entity.1.plain? = some entry.1 ∧ Registry.ofDeclaration entry.1 (declarationOf entity) = .ok entry.2

structure KeepsLast (made kept : List (String × Registry)) : Prop where
  names_nodup : (kept.map Prod.fst).Nodup
  mem_iff (name : String) (registry : Registry) : (name, registry) ∈ kept ↔
    ∃ before after, made = before ++ (name, registry) :: after ∧ ∀ later ∈ after, later.1 ≠ name

variable {path name entity : String} {content : FileContent} {entities : Entries} {registry : Registry}
  {problem : RegistryError} {known made registries : List (String × Registry)}

theorem Declares.unique {others : Entries} (declared : Declares reader content entities)
    (again : Declares reader content others) : entities = others := by
  obtain ⟨read, given⟩ := declared
  obtain ⟨read', given'⟩ := again
  obtain rfl := Value.map.inj (Except.ok.inj (read.symm.trans read'))
  exact Value.map.inj (Option.some.inj (given.symm.trans given'))

theorem Declares.distinct (documented : Documented reader) (declared : Declares reader content entities) :
    Entries.Distinct entities := by
  obtain ⟨read, given⟩ := declared
  have whole := documented.distinct read
  rw [Value.hasDistinctKeys_map] at whole
  obtain ⟨entry, found, same⟩ := Option.map_eq_some_iff.mp given
  have inside := whole.2 entry (List.mem_of_find?_eq_some found)
  rw [same, Value.hasDistinctKeys_map] at inside
  exact inside.1

/-- Keys that are texts differ as texts. -/
theorem Declares.nodup_texts (documented : Documented reader) (declared : Declares reader content entities)
    (texts : ∀ key ∈ Entries.keys entities, ∃ name, key = .text name) :
    (entities.map fun entity => entity.1.plain?).Nodup := by
  have differ := (Entries.distinct_iff_nodup texts).mp (declared.distinct documented)
  have plain : entities.map (fun entity => entity.1.plain?) = (Entries.keys entities).map Atom.plain? := by
    rw [Entries.keys, List.map_map]
    rfl
  rw [plain]
  refine List.Nodup.map_on (fun first early second late same => ?_) differ
  obtain ⟨_, rfl⟩ := texts first early
  obtain ⟨_, rfl⟩ := texts second late
  exact congrArg Atom.text (Option.some.inj same)

/-! ## The registries that are kept -/

theorem setRegistry_of_fresh (fresh : name ∉ known.map Prod.fst) :
    setRegistry name registry known = known ++ [(name, registry)] := by
  induction known with
  | nil => rfl
  | cons entry known ih =>
    obtain ⟨here, later⟩ := not_or.mp (mt List.mem_cons.mpr fresh)
    rw [setRegistry, if_neg (by simpa using Ne.symm here), ih later, List.cons_append]

private theorem names_setRegistry_of_known (old : name ∈ known.map Prod.fst) :
    (setRegistry name registry known).map Prod.fst = known.map Prod.fst := by
  induction known with
  | nil => cases old
  | cons entry known ih =>
    rw [setRegistry]
    by_cases same : (entry.1 == name) = true
    · rw [if_pos same, List.map_cons, List.map_cons, ← beq_iff_eq.mp same]
    · have later := List.mem_of_ne_of_mem (Ne.symm (by simpa using same)) old
      rw [if_neg same, List.map_cons, List.map_cons, ih later]

private theorem nodup_setRegistry (differ : (known.map Prod.fst).Nodup) :
    ((setRegistry name registry known).map Prod.fst).Nodup := by
  by_cases old : name ∈ known.map Prod.fst
  · rwa [names_setRegistry_of_known old]
  · rw [setRegistry_of_fresh old, List.map_append, List.map_singleton]
    exact List.concat_eq_append ▸ differ.concat old

private theorem mem_setRegistry (differ : (known.map Prod.fst).Nodup) {entry : String × Registry} :
    entry ∈ setRegistry name registry known ↔ entry = (name, registry) ∨ entry.1 ≠ name ∧ entry ∈ known := by
  induction known with
  | nil => simp [setRegistry]
  | cons first known ih =>
    obtain ⟨fresh, differ⟩ := List.nodup_cons.mp differ
    rw [setRegistry]
    by_cases same : (first.1 == name) = true
    · -- The one entry of the name makes room for the new one; no later entry has the name.
      have others : entry ∈ known → entry.1 ≠ name := by
        rintro member rfl
        exact fresh (beq_iff_eq.mp same ▸ List.mem_map_of_mem member)
      rw [if_pos same, List.mem_cons, List.mem_cons]
      have apart : entry = first → entry.1 = name := fun here => here ▸ beq_iff_eq.mp same
      tauto
    · have apart : entry = first → entry.1 ≠ name := by
        rintro rfl
        simpa using same
      rw [if_neg same, List.mem_cons, List.mem_cons, ih differ]
      tauto

def keepAll (known made : List (String × Registry)) : List (String × Registry) :=
  made.foldl (fun known entry => setRegistry entry.1 entry.2 known) known

private theorem last_concat_iff {entry last : String × Registry} :
    (∃ before after, made ++ [last] = before ++ entry :: after ∧ ∀ later ∈ after, later.1 ≠ entry.1) ↔
      entry = last ∨ entry.1 ≠ last.1 ∧
        ∃ before after, made = before ++ entry :: after ∧ ∀ later ∈ after, later.1 ≠ entry.1 := by
  constructor
  · rintro ⟨before, after, same, others⟩
    rcases List.eq_nil_or_concat after with rfl | ⟨after, final, rfl⟩
    · exact .inl (List.append_inj_right' same rfl |> List.cons.inj |>.1).symm
    · rw [List.concat_eq_append, ← List.cons_append, ← List.append_assoc] at same
      obtain ⟨rfl, ends⟩ := List.append_inj' same rfl
      obtain rfl := (List.cons.inj ends).1
      rw [List.concat_eq_append] at others
      refine .inr ⟨Ne.symm (others last (by simp)), before, after, rfl, fun later member => ?_⟩
      exact others later (List.mem_append_left _ member)
  · rintro (rfl | ⟨differs, before, after, rfl, others⟩)
    · exact ⟨made, [], rfl, List.forall_mem_nil _⟩
    · refine ⟨before, after ++ [last], by simp, fun later member => ?_⟩
      rcases List.mem_append.mp member with early | final
      · exact others later early
      · rw [List.mem_singleton.mp final]
        exact Ne.symm differs

theorem keepAll_keepsLast (made : List (String × Registry)) : KeepsLast made (keepAll [] made) := by
  induction made using List.reverseRecOn with
  | nil => exact ⟨List.nodup_nil, fun name registry => by simp [keepAll]⟩
  | append_singleton made last ih =>
    have step : keepAll [] (made ++ [last]) = setRegistry last.1 last.2 (keepAll [] made) := by
      rw [keepAll, List.foldl_append]
      rfl
    rw [step]
    refine ⟨nodup_setRegistry ih.names_nodup, fun name registry => ?_⟩
    rw [mem_setRegistry ih.names_nodup, ih.mem_iff]
    exact last_concat_iff.symm

/-- Registries of different names are kept as they were made. -/
theorem keepAll_of_nodup (differ : ((known ++ made).map Prod.fst).Nodup) : keepAll known made = known ++ made := by
  induction made generalizing known with
  | nil => exact (List.append_nil known).symm
  | cons entry made ih =>
    have split : known ++ entry :: made = known ++ [entry] ++ made := by simp
    have fresh : entry.1 ∉ known.map Prod.fst := by
      rw [List.map_append, List.nodup_append] at differ
      exact fun member => differ.2.2 _ member _ (List.mem_cons_self ..) rfl
    change keepAll (setRegistry entry.1 entry.2 known) made = _
    rw [split] at differ ⊢
    rw [setRegistry_of_fresh fresh, ih differ]

theorem keepAll_eq_iff : keepAll [] made = made ↔ (made.map Prod.fst).Nodup := by
  constructor
  · intro same
    have names := (keepAll_keepsLast made).names_nodup
    rwa [same] at names
  · exact fun differ => keepAll_of_nodup (List.nil_append made ▸ differ)

/-! ## Entities one after another -/

theorem addEntities_cons {key : Atom} {declaration : Value} (written : key.plain? = some name) :
    addEntities known ((key, declaration) :: entities) =
      Registry.ofDeclaration name (declarationOf (key, declaration)) >>= fun registry =>
        addEntities (setRegistry name registry known) entities := by
  rw [addEntities, written]
  rfl

private theorem addEntities_eq_ok_iff :
    addEntities known entities = .ok registries ↔
      ∃ made, List.Forall₂ Makes entities made ∧ keepAll known made = registries := by
  induction entities generalizing known with
  | nil => simp [addEntities, keepAll]
  | cons entity entities ih =>
    rcases entity with ⟨key, declaration⟩
    cases written : key.plain? with
    | none =>
      rw [addEntities, written]
      refine iff_of_false nofun ?_
      rintro ⟨made, pairs, -⟩
      cases pairs with
      | cons here _ =>
        have same := written.symm.trans here.1
        cases same
    | some name =>
      simp only [addEntities_cons written, bind_eq_ok, ih]
      constructor
      · rintro ⟨registry, declared, made, pairs, kept⟩
        exact ⟨(name, registry) :: made, .cons ⟨written, declared⟩ pairs, kept⟩
      · rintro ⟨made, pairs, kept⟩
        cases pairs with
        | @cons _ entry _ made here others =>
          rcases entry with ⟨called, registry⟩
          obtain ⟨same, declared⟩ := here
          obtain rfl := Option.some.inj (written.symm.trans same)
          exact ⟨registry, declared, made, others, kept⟩

private theorem addEntities_eq_error (refused : addEntities known entities = .error problem) :
    ∃ entity ∈ entities, entity.1.IsOverlong ∧ problem = .overlongName ∨
      ∃ name, Registry.ofDeclaration name (declarationOf entity) = .error problem := by
  induction entities generalizing known with
  | nil => cases refused
  | cons entity entities ih =>
    rcases entity with ⟨key, declaration⟩
    cases written : key.plain? with
    | none =>
      rw [addEntities, written] at refused
      have long := Atom.plain?_eq_none_iff.mp written
      exact ⟨_, List.mem_cons_self .., .inl ⟨long, (Except.error.inj refused).symm⟩⟩
    | some name =>
      rw [addEntities_cons written] at refused
      cases declared : Registry.ofDeclaration name (declarationOf (key, declaration)) with
      | error flaw =>
        rw [declared] at refused
        obtain rfl := Except.error.inj refused
        exact ⟨_, List.mem_cons_self .., .inr ⟨name, declared⟩⟩
      | ok registry =>
        rw [declared] at refused
        obtain ⟨other, member, failed⟩ := ih refused
        exact ⟨other, List.mem_cons_of_mem _ member, failed⟩

/-! ## What is refused without a report -/

/-- Options with a canonical name that has parts. -/
def IsComposite (options : Value) : Prop :=
  ∃ name, Entries.field? (fieldsOf options) "name" = some name ∧ name.isContainer = true ∧ name.isVacant = false

/-- Why what a file holds may be refused without a report. -/
inductive Escapes (reader : DocumentReader) : FileContent → RegistryError → Prop
  | path : Escapes reader .nullInPath .nullInPath
  | text {data : List UInt8} (garbled : Yaml.textOfBytes? data = none)
      (said : reader data = .error .undecodable) : Escapes reader (.bytes data) .undecodable
  | key {content : FileContent} {entities : Entries} {entity : Atom × Value}
      (declared : Declares reader content entities) (member : entity ∈ entities) (long : entity.1.IsOverlong) :
      Escapes reader content .overlongName
  | entry {content : FileContent} {entities properties : Entries} {entity : Atom × Value} {identity : Value}
      {problem : RegistryError} (declared : Declares reader content entities) (member : entity ∈ entities)
      (layout : Layout (declarationOf entity) properties identity)
      (untold : ∃ entry ∈ properties, IsUntold entry) (silent : problem.report? = none) :
      Escapes reader content problem
  | names {content : FileContent} {entities properties : Entries} {entity : Atom × Value} {identity : Value}
      (declared : Declares reader content entities) (member : entity ∈ entities)
      (layout : Layout (declarationOf entity) properties identity)
      (composite : ∃ entry ∈ properties, IsComposite entry.2) : Escapes reader content .compositeName

private theorem layout_or_reported (entity : String) (declaration : Value) :
    (∃ properties identity, Layout declaration properties identity) ∨
      ∃ problem, Registry.ofDeclaration entity declaration = .error problem ∧ IsReported problem := by
  cases declaration with
  | map members =>
    cases given : Entries.field? members "properties" with
    | none => exact .inl ⟨_, _, .flat given⟩
    | some properties =>
      by_cases none : properties.isVacant = true
      · exact .inl ⟨_, _, .vacant given none⟩
      · have unfit (foreign : ∀ entries, properties ≠ .map entries) :
            Registry.ofDeclaration entity (.map members) = .error (.properties entity) := by
          rw [Registry.ofDeclaration, splitDeclaration, given]
          simp only [none, Bool.false_eq_true, ↓reduceIte]
          rfl
        cases properties with
        | map entries => exact .inl ⟨_, _, .nested given⟩
        | atom leaf => exact .inr ⟨_, unfit (by simp), _, rfl⟩
        | list items => exact .inr ⟨_, unfit (by simp), _, rfl⟩
  | atom leaf => exact .inr ⟨_, rfl, _, rfl⟩
  | list items => exact .inr ⟨_, rfl, _, rfl⟩

private theorem Exposes.isComposite {entry : Atom × Value} {exposure : Exposure} (exposes : Exposes entry exposure)
    (parts : exposure.name.isContainer = true) (stated : exposure.name.isVacant = false) : IsComposite entry.2 := by
  obtain ⟨_, -, rfl⟩ := exposes
  change ((Entries.field? (fieldsOf entry.2) "name").getD .null).isContainer = true at parts
  change ((Entries.field? (fieldsOf entry.2) "name").getD .null).isVacant = false at stated
  cases given : Entries.field? (fieldsOf entry.2) "name" with
  | none =>
    rw [given] at parts
    cases parts
  | some name =>
    rw [given] at parts stated
    exact ⟨name, given, parts, stated⟩

/-- A declaration is refused with a report, or for one of its properties. -/
theorem ofDeclaration_eq_error {declaration : Value}
    (refused : Registry.ofDeclaration entity declaration = .error problem) :
    IsReported problem ∨ ∃ properties identity, Layout declaration properties identity ∧
      (problem.report? = none ∧ (∃ entry ∈ properties, IsUntold entry) ∨
        problem = .compositeName ∧ ∃ entry ∈ properties, IsComposite entry.2) := by
  rcases layout_or_reported entity declaration with ⟨properties, identity, layout⟩ | ⟨other, failed, reported⟩
  · rw [ofDeclaration_of_layout layout] at refused
    cases exposed : exposeEntries (Builder.start entity identity) properties with
    | error flaw =>
      rw [exposed] at refused
      obtain rfl := Except.error.inj refused
      refine (exposeEntries_eq_error exposed).imp_right fun untold => ?_
      exact ⟨properties, identity, layout, .inl untold⟩
    | ok builder =>
      rw [exposed] at refused
      obtain ⟨rfl, composite⟩ := Builder.build_eq_error refused
      obtain ⟨-, exposures, matched, accepted⟩ := exposeEntries_eq_ok_iff.mp exposed
      rcases Builder.composite_exposeAll accepted composite with start | ⟨exposure, member, parts, stated⟩
      · cases start
      · obtain ⟨entry, inside, exposes⟩ := exists_source matched member
        exact .inr ⟨properties, identity, layout, .inr ⟨rfl, entry, inside, exposes.isComposite parts stated⟩⟩
  · rw [failed] at refused
    exact .inl (Except.error.inj refused ▸ reported)

/-! ## Files -/

private theorem registriesOfDocument_ne_map {document : Value} (foreign : ∀ members, document ≠ .map members) :
    ∃ problem, registriesOfDocument path document = .error problem ∧ IsReported problem := by
  cases document with
  | map members => exact absurd rfl (foreign members)
  | atom leaf =>
    by_cases vacant : (Value.atom leaf).isVacant = true
    · exact ⟨_, if_pos vacant, _, rfl⟩
    · exact ⟨_, if_neg vacant, _, rfl⟩
  | list items =>
    by_cases vacant : (Value.list items).isVacant = true
    · exact ⟨_, if_pos vacant, _, rfl⟩
    · exact ⟨_, if_neg vacant, _, rfl⟩

private theorem registriesOfDocument_of_not_given {members : Entries}
    (foreign : ∀ entities, Entries.field? members "entities" ≠ some (.map entities)) :
    ∃ problem, registriesOfDocument path (.map members) = .error problem ∧ IsReported problem := by
  rw [registriesOfDocument]
  split
  next => exact ⟨_, rfl, _, rfl⟩
  next =>
    split
    next entities given => exact absurd given (foreign entities)
    next => exact ⟨_, rfl, _, rfl⟩

theorem loadRegistries_of_declares (declared : Declares reader content entities) :
    loadRegistries reader path content = addEntities [] entities := by
  cases declared with
  | @document data members entities read given =>
    have filled : (Value.map members).isVacant = false := by
      cases members with
      | nil => cases given
      | cons entry members => rfl
    simp only [loadRegistries, registriesOfBytes, read, registriesOfDocument, filled, Bool.false_eq_true,
      ↓reduceIte, given]

theorem loadRegistries_of_fault {data : List UInt8} {fault : Yaml.Fault} (stopped : reader data = .error fault) :
    loadRegistries reader path (.bytes data) = .error (.ofFault path fault) := by
  simp only [loadRegistries, registriesOfBytes, stopped]

/-- A file declares entities, or is refused for what it is. -/
theorem declares_or_refused (documented : Documented reader) (path : String) (content : FileContent) :
    (∃ entities, Declares reader content entities) ∨
      ∃ problem, loadRegistries reader path content = .error problem ∧
        (IsReported problem ∨ Escapes reader content problem) := by
  cases content with
  | missing | directory | notDirectory | longName => exact .inr ⟨_, rfl, .inl ⟨_, rfl⟩⟩
  | nullInPath => exact .inr ⟨_, rfl, .inr .path⟩
  | bytes data =>
    have malformed (stopped : reader data = .error .malformed) :
        ∃ problem, loadRegistries reader path (.bytes data) = .error problem ∧
          (IsReported problem ∨ Escapes reader (.bytes data) problem) :=
      ⟨_, loadRegistries_of_fault stopped, .inl ⟨_, rfl⟩⟩
    cases spelled : Yaml.textOfBytes? data with
    | none =>
      rcases documented.garbled spelled with said | stopped
      · exact .inr ⟨_, loadRegistries_of_fault said, .inr (.text spelled said)⟩
      · exact .inr (malformed stopped)
    | some text =>
      rcases documented.spelled spelled with ⟨document, read⟩ | stopped
      · have refused
            (reported : ∃ problem, registriesOfDocument path document = .error problem ∧ IsReported problem) :
            ∃ problem, loadRegistries reader path (.bytes data) = .error problem ∧
              (IsReported problem ∨ Escapes reader (.bytes data) problem) := by
          simp only [loadRegistries, registriesOfBytes, read]
          exact reported.imp fun _ => And.imp_right .inl
        by_cases mapped : ∃ members, document = .map members
        · obtain ⟨members, rfl⟩ := mapped
          by_cases given : ∃ entities, Entries.field? members "entities" = some (.map entities)
          · exact .inl (given.imp fun _ => .document read)
          · exact .inr (refused (registriesOfDocument_of_not_given (not_exists.mp given)))
        · exact .inr (refused (registriesOfDocument_ne_map (not_exists.mp mapped)))
      · exact .inr (malformed stopped)

theorem loadRegistries_eq_error (documented : Documented reader)
    (refused : loadRegistries reader path content = .error problem) :
    IsReported problem ∨ Escapes reader content problem := by
  rcases declares_or_refused documented path content with ⟨entities, declared⟩ | ⟨other, failed, due⟩
  · rw [loadRegistries_of_declares declared] at refused
    obtain ⟨entity, member, ⟨long, rfl⟩ | ⟨name, failed⟩⟩ := addEntities_eq_error refused
    · exact .inr (.key declared member long)
    · refine (ofDeclaration_eq_error failed).imp_right ?_
      rintro ⟨properties, identity, layout, ⟨silent, untold⟩ | ⟨rfl, composite⟩⟩
      · exact .entry declared member layout untold silent
      · exact .names declared member layout composite
  · rw [failed] at refused
    exact Except.error.inj refused ▸ due

theorem loadRegistries_eq_ok (documented : Documented reader)
    (loaded : loadRegistries reader path content = .ok registries) :
    ∃ entities made, Declares reader content entities ∧ List.Forall₂ Makes entities made ∧
      keepAll [] made = registries := by
  rcases declares_or_refused documented path content with ⟨entities, declared⟩ | ⟨_, failed, -⟩
  · rw [loadRegistries_of_declares declared] at loaded
    obtain ⟨made, pairs, kept⟩ := addEntities_eq_ok_iff.mp loaded
    exact ⟨entities, made, declared, pairs, kept⟩
  · rw [failed] at loaded
    cases loaded

/-- Loading comes to one registry for each entity of the document, or to a refusal that is reported. -/
def LoadsWhole (reader : DocumentReader) (path : String) (content : FileContent) : Prop :=
  (∃ entities registries, Declares reader content entities ∧
    loadRegistries reader path content = .ok registries ∧ List.Forall₂ Makes entities registries) ∨
  ∃ problem, loadRegistries reader path content = .error problem ∧ IsReported problem

private theorem makes_unique (pairs : List.Forall₂ Makes entities made)
    (others : List.Forall₂ Makes entities registries) : made = registries := by
  refine List.right_unique_forall₂' (fun entity first second here there => ?_) pairs others
  rcases first with ⟨name, registry⟩
  rcases second with ⟨other, registry'⟩
  obtain rfl : name = other := Option.some.inj (here.1.symm.trans there.1)
  exact congrArg (Prod.mk name) (Except.ok.inj (here.2.symm.trans there.2))

private theorem names_of_makes (pairs : List.Forall₂ Makes entities made) :
    entities.map (fun entity => entity.1.plain?) = (made.map Prod.fst).map some := by
  induction pairs with
  | nil => rfl
  | cons here _ ih => rw [List.map_cons, List.map_cons, List.map_cons, here.1, ih]

/-- Registries that entities make have names of their own exactly if the keys differ as texts. -/
theorem nodup_of_makes (pairs : List.Forall₂ Makes entities made) :
    (made.map Prod.fst).Nodup ↔ (entities.map fun entity => entity.1.plain?).Nodup := by
  rw [names_of_makes pairs]
  exact (List.nodup_map_iff fun _ _ same => Option.some.inj same).symm

/-- What is loaded are the registries that the entities make, the last of each name. One is lost exactly if two
keys have one text, which keys that are texts do not. Every refusal is reported but for a few that the content
accounts for, of which bytes that spell no text are one. So loading is whole as long as none of these is met and
keys differ as texts. -/
theorem loading (reader : DocumentReader) (documented : Documented reader) (path : String) (content : FileContent) :
    (∀ registries, loadRegistries reader path content = .ok registries →
      ∃ entities made, Declares reader content entities ∧ List.Forall₂ Makes entities made ∧
        KeepsLast made registries ∧
        (List.Forall₂ Makes entities registries ↔ (entities.map fun entity => entity.1.plain?).Nodup)) ∧
    (∀ entities, Declares reader content entities → (∀ key ∈ Entries.keys entities, ∃ name, key = .text name) →
      (entities.map fun entity => entity.1.plain?).Nodup) ∧
    (∀ problem, loadRegistries reader path content = .error problem →
      IsReported problem ∨ Escapes reader content problem) ∧
    (∀ data, Yaml.textOfBytes? data = none →
      loadRegistries reader path (.bytes data) = .error .undecodable ∨
        loadRegistries reader path (.bytes data) = .error (.yaml path)) ∧
    ((∀ problem, ¬Escapes reader content problem) →
      (∀ entities, Declares reader content entities → (entities.map fun entity => entity.1.plain?).Nodup) →
      LoadsWhole reader path content) := by
  refine ⟨fun registries loaded => ?_, fun entities => Declares.nodup_texts documented,
    fun problem => loadRegistries_eq_error documented, fun data garbled => ?_, fun due differ => ?_⟩
  · obtain ⟨entities, made, declared, pairs, rfl⟩ := loadRegistries_eq_ok documented loaded
    refine ⟨entities, made, declared, pairs, keepAll_keepsLast made, ?_⟩
    rw [← nodup_of_makes pairs, ← keepAll_eq_iff]
    exact ⟨fun whole => makes_unique whole pairs, fun same => same.symm ▸ pairs⟩
  · exact (documented.garbled garbled).imp loadRegistries_of_fault loadRegistries_of_fault
  · cases loaded : loadRegistries reader path content with
    | error problem =>
      exact .inr ⟨problem, loaded, (loadRegistries_eq_error documented loaded).resolve_right (due problem)⟩
    | ok registries =>
      obtain ⟨entities, made, declared, pairs, rfl⟩ := loadRegistries_eq_ok documented loaded
      have whole := keepAll_eq_iff.mpr ((nodup_of_makes pairs).mpr (differ entities declared))
      rw [whole] at loaded
      exact .inl ⟨entities, made, declared, loaded, pairs⟩

/-- Calls malformed whatever else a text may be refused for. -/
def documentedReader : DocumentReader := fun data =>
  match Yaml.textOfBytes? data with
  | none => .error .undecodable
  | some text =>
    match Yaml.read 488 text with
    | .ok document => .ok document
    | .error _ => .error .malformed

theorem documentedReader_documented : Documented documentedReader where
  spelled {data text} spelled := by
    rw [documentedReader, spelled]
    cases known : Yaml.read 488 text with
    | ok document => exact .inl ⟨document, by simp only [known]⟩
    | error fault => exact .inr (by simp only [known])
  garbled garbled := by
    rw [documentedReader, garbled]
    exact .inl rfl
  distinct {data value} read := by
    unfold documentedReader at read
    split at read
    next => cases read
    next text _ =>
      split at read
      next document known => exact Except.ok.inj read ▸ Yaml.hasDistinctKeys_read known
      next => cases read

def entitiesOf? (reader : DocumentReader) : FileContent → Option Entries
  | .bytes data =>
    match reader data with
    | .ok (.map members) => match Entries.field? members "entities" with
      | some (.map entities) => some entities
      | _ => none
    | _ => none
  | _ => none

private theorem declares_of_entitiesOf? (found : entitiesOf? reader content = some entities) :
    Declares reader content entities := by
  unfold entitiesOf? at found
  split at found
  next data =>
    split at found
    next members read =>
      split at found
      next given =>
        obtain rfl := Option.some.inj found
        exact .document read given
      next => cases found
    next => cases found
  next => cases found

theorem exists_declares {keys : List Atom} (found : (entitiesOf? reader content).map Entries.keys = some keys) :
    ∃ entities, Declares reader content entities ∧ Entries.keys entities = keys := by
  obtain ⟨entities, known, same⟩ := Option.map_eq_some_iff.mp found
  exact ⟨entities, declares_of_entitiesOf? known, same⟩

/-- Two entities are loaded in their order, and a file that is not there is refused with a report. -/
theorem loading_two_entities :
    let text := "entities: {users: {email: {type: date}}, files: {name: }}"
    let content : FileContent := .bytes text.toUTF8.toList
    Documented documentedReader ∧ ∃ entities registries, Declares documentedReader content entities ∧
      loadRegistries documentedReader "registry.yaml" content = .ok registries ∧
      registries.map Prod.fst = ["users", "files"] ∧ List.Forall₂ Makes entities registries ∧
      loadRegistries documentedReader "registry.yaml" (.bytes [0xff]) = .error .undecodable ∧
      LoadsWhole documentedReader "registry.yaml" .missing := by
  intro text content
  have names : (loadRegistries documentedReader "registry.yaml" content).toOption.map (List.map Prod.fst) =
      some ["users", "files"] := by
    decide +kernel
  have keys : (entitiesOf? documentedReader content).map Entries.keys = some [.text "users", .text "files"] := by
    decide +kernel
  have documented := documentedReader_documented
  obtain ⟨kept, differ, -, garbled, -⟩ := loading documentedReader documented "registry.yaml" content
  obtain ⟨-, -, -, -, absent⟩ := loading documentedReader documented "registry.yaml" .missing
  cases loaded : loadRegistries documentedReader "registry.yaml" content with
  | error problem =>
    rw [loaded] at names
    cases names
  | ok registries =>
    rw [loaded] at names
    obtain ⟨entities, made, declared, -, -, whole⟩ := kept registries loaded
    obtain ⟨others, again, spelled⟩ := exists_declares keys
    obtain rfl := declared.unique again
    have texts : ∀ key ∈ Entries.keys entities, ∃ name, key = .text name := by
      rw [spelled]
      simp
    have refused := (garbled [0xff] (by decide +kernel)).resolve_right nofun
    refine ⟨documented, entities, registries, declared, rfl, Option.some.inj names,
      whole.mpr (differ entities declared texts), refused, absent ?_ nofun⟩
    intro problem escapes
    cases escapes with
    | key declared _ _ => cases declared
    | entry declared _ _ _ _ => cases declared
    | names declared _ _ _ => cases declared

/-- Bytes that spell no text are refused without a report, and of two keys with one text one is lost. -/
theorem loading_not_whole :
    let text := "entities: \x7b1: \x7bname: \x7d, '1': \x7bsize: \x7d\x7d"
    let content : FileContent := .bytes text.toUTF8.toList
    Documented documentedReader ∧
      loadRegistries documentedReader "registry.yaml" (.bytes [0xff]) = .error .undecodable ∧
      ¬IsReported .undecodable ∧ ¬LoadsWhole documentedReader "registry.yaml" (.bytes [0xff]) ∧
      (∃ entities, Declares documentedReader content entities ∧ Entries.keys entities = [.int 1, .text "1"]) ∧
      (∃ registry, loadRegistries documentedReader "registry.yaml" content = .ok [("1", registry)] ∧
        registry.properties.map Property.publicName = [.text "size"]) ∧
      ¬LoadsWhole documentedReader "registry.yaml" content := by
  intro text content
  have garbled : Yaml.textOfBytes? [0xff] = none := by decide +kernel
  have keys : (entitiesOf? documentedReader content).map Entries.keys = some [.int 1, .text "1"] := by
    decide +kernel
  have names : (loadRegistries documentedReader "registry.yaml" content).toOption.map (List.map fun entry =>
      (entry.1, entry.2.properties.map Property.publicName)) = some [("1", [.text "size"])] := by
    decide +kernel
  have refused : loadRegistries documentedReader "registry.yaml" (.bytes [0xff]) = .error .undecodable := by
    have stopped : documentedReader [0xff] = .error .undecodable := by rw [documentedReader, garbled]
    exact loadRegistries_of_fault stopped
  have silent : ¬IsReported .undecodable := nofun
  have escapes : ¬LoadsWhole documentedReader "registry.yaml" (.bytes [0xff]) := by
    rintro (⟨entities, registries, -, loaded, -⟩ | ⟨problem, failed, reported⟩)
    · rw [refused] at loaded
      cases loaded
    · obtain rfl := Except.error.inj (refused.symm.trans failed)
      exact silent reported
  refine ⟨documentedReader_documented, refused, silent, escapes, exists_declares keys, ?_⟩
  cases loaded : loadRegistries documentedReader "registry.yaml" content with
  | error problem =>
    rw [loaded] at names
    cases names
  | ok registries =>
    rw [loaded] at names
    have lost := Option.some.inj names
    have one : registries.length = 1 := by simpa using congrArg List.length lost
    obtain ⟨⟨name, registry⟩, rfl⟩ := List.length_eq_one_iff.mp one
    obtain ⟨rfl, exposed⟩ := Prod.mk.inj (List.cons.inj lost).1
    refine ⟨⟨registry, rfl, exposed⟩, ?_⟩
    rintro (⟨entities, kept, declared, whole, pairs⟩ | ⟨problem, failed, -⟩)
    · obtain ⟨others, again, spelled⟩ := exists_declares keys
      obtain rfl := declared.unique again
      have two := congrArg List.length spelled
      rw [loaded] at whole
      obtain rfl := Except.ok.inj whole
      have paired := pairs.length_eq
      simp only [Entries.keys, List.length_map, List.length_cons, List.length_nil] at two paired
      omega
    · rw [loaded] at failed
      cases failed

end QueryGate
