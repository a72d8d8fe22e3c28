import QueryGate.Proofs.Value.Reordering
import QueryGate.Query.Populate
/-!
The written form of relations can be read back. A relation is written with one entry for each of its members that is
given, so a member that is absent has no entry, and one that is empty has an entry with an empty list. What is read is
exactly what is written, except that the entries of a map may stand in any order, as they have none for whoever gets
the map. So requests that differ, in whatever depth, are written differently.
-/

namespace QueryGate.Query

open QueryGate.Value

/-! ## Texts -/

def text? : Value → Option String
  | .text chars => some chars
  | _ => none

def texts? : Value → Option (List String)
  | .list items => items.mapM text?
  | _ => none

theorem text?_eq_some_iff {value : Value} {chars : String} :
    text? value = some chars ↔ Reordered value (.text chars) := by
  constructor
  · intro read
    unfold text? at read
    split at read
    next => exact Option.some.inj read ▸ .refl _
    next => cases read
  · intro same
    cases same
    rfl

/-- Values that are read one by one for exactly what is written make a list that is read so. -/
theorem mapM_eq_some_iff_reordered {α : Type} {read : Value → Option α} {write : α → Value} {items : List Value}
    (reads : ∀ item ∈ items, ∀ result, read item = some result ↔ Reordered item (write result))
    {results : List α} : items.mapM read = some results ↔ Reordered (.list items) (.list (results.map write)) := by
  rw [mapM_eq_some_iff, reordered_list_iff, List.forall₂_map_right_iff]
  exact forall₂_congr_of_mem reads

private theorem texts?_eq_some_iff {value : Value} {texts : List String} :
    texts? value = some texts ↔ Reordered value (textList texts) := by
  cases value with
  | list items => exact mapM_eq_some_iff_reordered fun item _ result => text?_eq_some_iff
  | _ => exact iff_of_false nofun nofun

namespace Populate

/-! ## Members -/

inductive Member where
  | path (name : String)
  | select (fields : List String)
  | populate (nested : List Populate)

def Member.toEntry : Member → Atom × Value
  | .path name => (.text "path", .text name)
  | .select fields => (.text "select", textList fields)
  | .populate nested => (.text "populate", .list (nested.map toValue))

def Member.path? : Member → Option String
  | .path name => some name
  | _ => none

def Member.select? : Member → Option (List String)
  | .select fields => some fields
  | _ => none

def Member.populate? : Member → Option (List Populate)
  | .populate nested => some nested
  | _ => none

def members : Populate → List Member
  | .options path select populate =>
    .path path :: (select.toList.map Member.select ++ populate.toList.map Member.populate)

private theorem toValues_eq_map (nested : List Populate) : toValues nested = nested.map toValue := by
  induction nested with
  | nil => rfl
  | cons first others ih => rw [toValues, ih, List.map_cons]

theorem toValue_eq_members (options : Populate) : options.toValue = .map (options.members.map Member.toEntry) := by
  rcases options with ⟨path, select, populate⟩
  rw [toValue, members]
  cases select <;> cases populate <;> simp [selectEntry, nestedEntry, toValues_eq_map, Member.toEntry]

/-- What a list holds that holds one item at most. -/
def atMostOne? {α : Type} : List α → Option (Option α)
  | [] => some none
  | [item] => some (some item)
  | _ => none

theorem atMostOne?_eq_some_iff {α : Type} {items : List α} {held : Option α} :
    atMostOne? items = some held ↔ items = held.toList := by
  match items with
  | [] => cases held <;> simp [atMostOne?]
  | [item] => cases held <;> simp [atMostOne?]
  | first :: second :: others => cases held <;> simp [atMostOne?]

/-- The order of the items makes no difference to what is picked of them once. -/
theorem atMostOne?_filterMap_of_perm {α β : Type} {pick : α → Option β} {items others : List α} {held : Option β}
    (moves : items.Perm others) (once : others.filterMap pick = held.toList) :
    atMostOne? (items.filterMap pick) = some held := by
  have picked := moves.filterMap pick
  rw [once] at picked
  refine atMostOne?_eq_some_iff.mpr ?_
  cases held with
  | none => exact picked.eq_nil
  | some item => exact List.perm_singleton.mp picked

def ofMembers? (members : List Member) : Option Populate :=
  match atMostOne? (members.filterMap Member.path?), atMostOne? (members.filterMap Member.select?),
    atMostOne? (members.filterMap Member.populate?) with
  | some (some path), some select, some populate => some (.options path select populate)
  | _, _, _ => none

/-- Members sorted by what they say, as they are written. -/
theorem perm_byKind (members : List Member) :
    members.Perm ((members.filterMap Member.path?).map Member.path ++
      ((members.filterMap Member.select?).map Member.select ++
        (members.filterMap Member.populate?).map Member.populate)) := by
  induction members with
  | nil => exact .nil
  | cons member members ih =>
    cases member with
    | path name => exact ih.cons _
    | select fields => exact (ih.cons _).trans List.perm_middle.symm
    | populate nested =>
      rw [← List.append_assoc] at ih ⊢
      exact (ih.cons _).trans List.perm_middle.symm

private theorem ofMembers?_eq_some_iff {members : List Member} {options : Populate} :
    ofMembers? members = some options ↔ members.Perm options.members := by
  rcases options with ⟨path, select, populate⟩
  constructor
  · intro read
    unfold ofMembers? at read
    split at read
    next path select populate paths selects populates =>
      obtain ⟨rfl, rfl, rfl⟩ := Populate.options.inj (Option.some.inj read)
      have kinds := perm_byKind members
      rwa [atMostOne?_eq_some_iff.mp paths, atMostOne?_eq_some_iff.mp selects,
        atMostOne?_eq_some_iff.mp populates] at kinds
    next => cases read
  · intro moves
    have paths : atMostOne? (members.filterMap Member.path?) = some (some path) :=
      atMostOne?_filterMap_of_perm moves (by cases select <;> cases populate <;> rfl)
    have selects : atMostOne? (members.filterMap Member.select?) = some select :=
      atMostOne?_filterMap_of_perm moves (by cases select <;> cases populate <;> rfl)
    have populates : atMostOne? (members.filterMap Member.populate?) = some populate :=
      atMostOne?_filterMap_of_perm moves (by cases select <;> cases populate <;> rfl)
    rw [ofMembers?, paths, selects, populates]

/-! ## Reading -/

mutual

def ofValue? : Value → Option Populate
  | .map entries => (membersOf? entries).bind ofMembers?
  | _ => none

def nestedOf? : Value → Option (List Populate)
  | .list items => ofValues? items
  | _ => none

def ofValues? : List Value → Option (List Populate)
  | [] => some []
  | item :: items => (ofValue? item).bind fun first => (ofValues? items).map (first :: ·)

def membersOf? : Entries → Option (List Member)
  | [] => some []
  | entry :: entries => (memberOf? entry).bind fun first => (membersOf? entries).map (first :: ·)

def memberOf? : Atom × Value → Option Member
  | (.text "path", value) => (text? value).map .path
  | (.text "select", value) => (texts? value).map .select
  | (.text "populate", value) => (nestedOf? value).map .populate
  | _ => none

end

private theorem ofValues?_eq_mapM (items : List Value) : ofValues? items = items.mapM ofValue? := by
  induction items with
  | nil => rfl
  | cons item items ih =>
    rw [ofValues?, ih, List.mapM_cons]
    cases ofValue? item <;> cases items.mapM ofValue? <;> rfl

private theorem membersOf?_eq_mapM (entries : Entries) : membersOf? entries = entries.mapM memberOf? := by
  induction entries with
  | nil => rfl
  | cons entry entries ih =>
    rw [membersOf?, ih, List.mapM_cons]
    cases memberOf? entry <;> cases entries.mapM memberOf? <;> rfl

private theorem memberOf?_eq_some_iff {entry : Atom × Value} {member : Member}
    (reads : ∀ nested, nestedOf? entry.2 = some nested ↔ Reordered entry.2 (.list (nested.map toValue))) :
    memberOf? entry = some member ↔ Mates entry member.toEntry := by
  unfold memberOf?
  split
  next value =>
    rw [Option.map_eq_some_iff]
    cases member <;> simp [Mates, Member.toEntry, text?_eq_some_iff]
  next value =>
    rw [Option.map_eq_some_iff]
    cases member <;> simp [Mates, Member.toEntry, texts?_eq_some_iff]
  next value =>
    rw [Option.map_eq_some_iff]
    cases member <;> simp [Mates, Member.toEntry, reads]
  next unnamed unselected unpopulated =>
    refine iff_of_false nofun fun mates => ?_
    rcases entry with ⟨key, value⟩
    cases member with
    | path name => exact unnamed value (congrArg (·, value) mates.1)
    | select fields => exact unselected value (congrArg (·, value) mates.1)
    | populate inner => exact unpopulated value (congrArg (·, value) mates.1)

/-- What can be read of a value is exactly what it is written for: as a relation with options, and as a list of
those. -/
structure ReadsExactly (value : Value) : Prop where
  whole (options : Populate) : ofValue? value = some options ↔ Reordered value options.toValue
  nested (relations : List Populate) :
    nestedOf? value = some relations ↔ Reordered value (.list (relations.map toValue))

theorem readsExactly (value : Value) : ReadsExactly value := by
  -- The list that stands under `populate` is no relation itself, so the induction is over both readings at once.
  induction value using treeInduction with
  | atom leaf =>
    refine ⟨fun options => ?_, fun relations => iff_of_false nofun nofun⟩
    rw [toValue_eq_members]
    exact iff_of_false nofun nofun
  | list items ih =>
    refine ⟨fun options => ?_, fun relations => ?_⟩
    · rw [toValue_eq_members]
      exact iff_of_false nofun nofun
    · rw [nestedOf?, ofValues?_eq_mapM]
      exact mapM_eq_some_iff_reordered fun item member => (ih item member).whole
  | map entries ih =>
    refine ⟨fun options => ?_, fun relations => iff_of_false nofun nofun⟩
    rw [toValue_eq_members, reordered_made_iff, ofValue?, Option.bind_eq_some_iff]
    refine exists_congr fun members => and_congr ?_ ofMembers?_eq_some_iff
    rw [membersOf?_eq_mapM, mapM_eq_some_iff]
    exact forall₂_congr_of_mem fun entry inside member => memberOf?_eq_some_iff (ih entry inside).nested

example : ofValue? (.map [(.text "select", .list []), (.text "path", .text "owner")]) =
    some (.options "owner" (some []) none) := rfl

end Populate

/-! ## Relations -/

def Relation.ofValue? : Value → Option Relation
  | .text name => some (.named name)
  | value => (Populate.ofValue? value).map .populated

def relationsOf? (spec : List Value) : Option (List Relation) := spec.mapM Relation.ofValue?

theorem Relation.ofValue?_eq_some_iff {value : Value} {relation : Relation} :
    Relation.ofValue? value = some relation ↔ Reordered value relation.toValue := by
  cases relation with
  | named name =>
    unfold Relation.ofValue?
    split
    next other =>
      rw [Relation.toValue, ← text?_eq_some_iff]
      simp [text?]
    next unnamed =>
      refine iff_of_false ?_ fun same => ?_
      · rw [Option.map_eq_some_iff]
        nofun
      · cases same
        exact unnamed name rfl
  | populated options =>
    rw [Relation.toValue, ← (Populate.readsExactly value).whole]
    unfold Relation.ofValue?
    split
    next name => exact iff_of_false nofun nofun
    next => simp

theorem Relation.toValue_injective : Function.Injective Relation.toValue := by
  intro relation other same
  have read : Relation.ofValue? relation.toValue = some relation := Relation.ofValue?_eq_some_iff.mpr (.refl _)
  have readOther : Relation.ofValue? other.toValue = some other := Relation.ofValue?_eq_some_iff.mpr (.refl _)
  rw [same, readOther] at read
  exact (Option.some.inj read).symm

theorem relationsOf?_eq_some_iff {spec : List Value} {relations : List Relation} :
    relationsOf? spec = some relations ↔ Reordered (.list spec) (.list (populateSpec relations)) :=
  mapM_eq_some_iff_reordered fun _ _ _ => Relation.ofValue?_eq_some_iff

private theorem reordered_populateSpec_iff {relations others : List Relation} :
    Reordered (.list (populateSpec relations)) (.list (populateSpec others)) ↔ relations = others := by
  have read : relationsOf? (populateSpec relations) = some relations := relationsOf?_eq_some_iff.mpr (.refl _)
  rw [← relationsOf?_eq_some_iff, read, Option.some.injEq]

private theorem getElem?_populateSpec_eq_some_iff {relations : List Relation} {place : Nat} {relation : Relation} :
    (populateSpec relations)[place]? = some relation.toValue ↔ relations[place]? = some relation := by
  rw [populateSpec, List.getElem?_map, ← Option.map_some]
  exact (Option.map_injective Relation.toValue_injective).eq_iff

/-- A relation with options is read back from its written form with every member, and an absent member is told from
an empty one however deep it lies. Nothing else can be read than what is written, in any order of the entries. So
lists of relations that differ are written differently, by more than the order of entries. What is written at a
place is the relation at that place, and a text if and only if that is a name alone. -/
theorem populateSpec_faithful :
    (∀ options : Populate, Populate.ofValue? options.toValue = some options) ∧
    (∀ (value : Value) (options : Populate),
      Populate.ofValue? value = some options ↔ Reordered value options.toValue) ∧
    (∀ (spec : List Value) (relations : List Relation),
      relationsOf? spec = some relations ↔ Reordered (.list spec) (.list (populateSpec relations))) ∧
    (∀ relations others : List Relation,
      Reordered (.list (populateSpec relations)) (.list (populateSpec others)) ↔ relations = others) ∧
    Function.Injective populateSpec ∧
    ∀ relations : List Relation, (populateSpec relations).length = relations.length ∧ ∀ place : Nat,
      (∀ relation : Relation,
        (populateSpec relations)[place]? = some relation.toValue ↔ relations[place]? = some relation) ∧
      ∀ name : String,
        (populateSpec relations)[place]? = some (.text name) ↔ relations[place]? = some (.named name) := by
  have exact (value : Value) (options : Populate) :
      Populate.ofValue? value = some options ↔ Reordered value options.toValue :=
    (Populate.readsExactly value).whole options
  refine ⟨fun options => (exact _ options).mpr (.refl _), exact, fun _ _ => relationsOf?_eq_some_iff,
    fun _ _ => reordered_populateSpec_iff, List.map_injective_iff.mpr Relation.toValue_injective, fun relations => ?_⟩
  refine ⟨List.length_map .., fun place => ?_⟩
  have written (relation : Relation) :
      (populateSpec relations)[place]? = some relation.toValue ↔ relations[place]? = some relation :=
    getElem?_populateSpec_eq_some_iff
  exact ⟨written, fun name => written (.named name)⟩

/-- A team for which nothing is said about further relations is not one with an empty list of them, two levels down
and with the entries turned round. -/
theorem populateSpec_faithful_nested :
    let owner (teams : List Populate) : Populate := .options "owner" (some ["name"]) (some teams)
    let bare := owner [.options "team" none none, .options "team" (some []) none]
    let closed := owner [.options "team" none (some []), .options "team" (some []) none]
    let turned : Value := .map [
      (.text "populate", .list [.map [(.text "path", .text "team")],
        .map [(.text "select", .list []), (.text "path", .text "team")]]),
      (.text "path", .text "owner"), (.text "select", .list [.text "name"])]
    let bareSpec := populateSpec [.named "tags", .populated bare]
    let closedSpec := populateSpec [.named "tags", .populated closed]
    Populate.ofValue? bare.toValue = some bare ∧ Populate.ofValue? closed.toValue = some closed ∧
      Reordered turned bare.toValue ∧ ¬Reordered (.list [.text "tags", turned]) (.list closedSpec) ∧
      bareSpec ≠ closedSpec ∧ bareSpec[0]? = some (.text "tags") := by
  intro owner bare closed turned bareSpec closedSpec
  obtain ⟨read, exact, whole, -, injective, places⟩ := populateSpec_faithful
  have differ : ([.named "tags", .populated bare] : List Relation) ≠ [.named "tags", .populated closed] := by
    simp [bare, closed, owner]
  have asked : relationsOf? [.text "tags", turned] = some [.named "tags", .populated bare] := rfl
  refine ⟨read bare, read closed, (exact turned bare).mp rfl, ?_, injective.ne differ,
    (((places _).2 0).2 "tags").mpr rfl⟩
  rw [← whole, asked]
  exact fun same => differ (Option.some.inj same)

end QueryGate.Query
