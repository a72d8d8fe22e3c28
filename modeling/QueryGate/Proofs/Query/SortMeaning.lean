import QueryGate.Proofs.Collector.Collection
import QueryGate.Proofs.Pairs
import QueryGate.Proofs.Query.Segments
import QueryGate.Proofs.Registry.Names
/-!
What a sort text means. A field that several segments name is sorted by where the first of them stands and in
the direction of the last one. So documents are ordered as the segments say, from left to right, exactly if no
field is named last in another direction than it is named first.
-/

namespace QueryGate.Query

open QueryGate.Filter QueryGate.Collector

variable {registry : Registry} {collection : Collection} {kept named : SortOrder}

/-! ## Segments that do not decide -/

def keepFirst (kept : SortOrder) (entry : Atom × Direction) : SortOrder :=
  if Entries.has kept entry.1 then kept else kept ++ [entry]

/-- The first naming of each field. -/
def firstNamings (named : SortOrder) : SortOrder := named.foldl keepFirst []

/-- A field that has been named before decides nothing. -/
theorem compareBy_of_named_before {field : Atom} (known : field ∈ Entries.keys kept) (direction : Direction)
    (first second : Value) :
    collection.compareBy (kept ++ (field, direction) :: named) first second =
      collection.compareBy (kept ++ named) first second := by
  rw [Collection.compareBy_append, Collection.compareBy_append]
  cases told : collection.compareBy kept first second with
  | lt => rfl
  | gt => rfl
  | eq =>
    have tied : collection.compareField field direction first second = .eq :=
      Collection.compareField_eq_iff.mpr (Collection.compareBy_eq_iff.mp told field known)
    rw [Collection.compareBy, compareLex, tied]
    rfl

private theorem compareBy_foldl_keepFirst (texts : ∀ key ∈ Entries.keys named, ∃ name, key = .text name)
    (first second : Value) :
    collection.compareBy (named.foldl keepFirst kept) first second =
      collection.compareBy (kept ++ named) first second := by
  induction named generalizing kept with
  | nil => rw [List.append_nil, List.foldl_nil]
  | cons entry named ih =>
    rcases entry with ⟨key, direction⟩
    obtain ⟨name, rfl⟩ := texts key (List.mem_cons_self ..)
    rw [List.foldl_cons, ih fun other inside => texts other (List.mem_cons_of_mem _ inside), keepFirst]
    by_cases known : Entries.has kept (.text name) = true
    · rw [if_pos known, compareBy_of_named_before (Entries.has_text_iff.mp known)]
    · rw [if_neg known, List.append_assoc, List.singleton_append]

/-! ## What is left of the segments -/

/-- Which fields are left, and in which order, hangs on the fields that are named alone. -/
theorem keys_foldl_keepFirst {settings others : SortOrder}
    (alike : Entries.keys settings = Entries.keys named) (same : Entries.keys kept = Entries.keys others) :
    Entries.keys (settings.foldl keepFirst kept) =
      Entries.keys (named.foldl (fun kept setting => Entries.set setting.1 setting.2 kept) others) := by
  induction settings generalizing named kept others with
  | nil =>
    obtain rfl := List.map_eq_nil_iff.mp alike.symm
    exact same
  | cons entry settings ih =>
    obtain ⟨setting, named, rfl, key, rest⟩ := List.map_eq_cons_iff.mp alike.symm
    rw [List.foldl_cons, List.foldl_cons]
    refine ih rest.symm ?_
    have known : Entries.has kept entry.1 = Entries.has others entry.1 := by
      have through (entries : SortOrder) :
          Entries.has entries entry.1 = (Entries.keys entries).any fun key => key.sameKey entry.1 := by
        rw [Entries.keys, List.any_map]
        rfl
      rw [through, through, same]
    rw [key, Entries.keys_set, keepFirst, known]
    split
    next => exact same
    next => rw [← same, Entries.keys, List.map_append, Entries.keys, List.map_singleton]

private theorem get?_foldl_keepFirst {name : String} :
    Entries.get? (named.foldl keepFirst kept) (.text name) =
      (Entries.get? kept (.text name)).or (Entries.get? named (.text name)) := by
  induction named generalizing kept with
  | nil => exact (Option.or_none ..).symm
  | cons entry named ih =>
    rcases entry with ⟨key, direction⟩
    rw [List.foldl_cons, ih, keepFirst, Entries.get?_cons_text]
    by_cases known : Entries.has kept key = true
    · rw [if_pos known]
      by_cases here : key = .text name
      · have present : Entries.get? kept (.text name) ≠ none := by
          rw [Ne, Entries.get?_text_eq_none_iff, not_not, ← Entries.has_text_iff, ← here]
          exact known
        obtain ⟨direction, found⟩ := Option.ne_none_iff_exists'.mp present
        rw [found, Option.some_or, Option.some_or]
      · rw [if_neg here]
    · rw [if_neg known, Entries.get?_append, Entries.get?_cons_text, Option.or_assoc]
      split <;> rfl

/-- An order orders as settings of the same fields do that hold first what it holds last. -/
theorem compareBy_ofSettings {settings : SortOrder}
    (texts : ∀ key ∈ Entries.keys named, ∃ name, key = .text name)
    (alike : Entries.keys settings = Entries.keys named)
    (held : ∀ name, Entries.get? named.reverse (.text name) = Entries.get? settings (.text name))
    (first second : Value) :
    collection.compareBy (Entries.ofSettings named) first second =
      collection.compareBy settings first second := by
  have left : ∀ key ∈ Entries.keys (Entries.ofSettings named), ∃ name, key = .text name :=
    List.forall_mem_map.mpr fun _ member => texts _ (Entries.key_mem_of_mem_ofSettings member)
  have same : Entries.ofSettings named = firstNamings settings := by
    refine Entries.eq_of_get?_eq (keys_foldl_keepFirst alike rfl).symm left ?_ fun name => ?_
    · exact (Entries.distinct_iff_nodup left).mp (Entries.distinct_ofSettings named)
    · rw [Entries.ofSettings, Entries.get?_foldl_set texts, held, firstNamings, get?_foldl_keepFirst]
      exact Option.or_none ..
  rw [same, firstNamings, compareBy_foldl_keepFirst (alike ▸ texts), List.nil_append]

def lastDirections (named : SortOrder) : SortOrder :=
  named.map fun entry => (entry.1, (Entries.get? named.reverse entry.1).getD entry.2)

private theorem keys_lastDirections : Entries.keys (lastDirections named) = Entries.keys named := by
  rw [Entries.keys, lastDirections, List.map_map]
  rfl

/-- Each entry takes its direction from another order, if that one knows the field. -/
theorem get?_map_getD (lasts settings : SortOrder) (name : String) :
    Entries.get? (settings.map fun entry => (entry.1, (Entries.get? lasts entry.1).getD entry.2))
        (.text name) =
      (Entries.get? settings (.text name)).map (Entries.get? lasts (.text name)).getD := by
  induction settings with
  | nil => rfl
  | cons entry settings ih =>
    rcases entry with ⟨key, direction⟩
    rw [List.map_cons, Entries.get?_cons_text, Entries.get?_cons_text, ih]
    split
    next here => rw [here, Option.map_some]
    next => rfl

private theorem get?_lastDirections {name : String} :
    Entries.get? (lastDirections named) (.text name) = Entries.get? named.reverse (.text name) := by
  rw [lastDirections, get?_map_getD]
  have reversed : Atom.text name ∈ Entries.keys named.reverse ↔ Atom.text name ∈ Entries.keys named := by
    rw [Entries.keys, List.map_reverse, List.mem_reverse, Entries.keys]
  cases found : Entries.get? named (.text name) with
  | none =>
    have absent := mt reversed.mp (Entries.get?_text_eq_none_iff.mp found)
    rw [Entries.get?_text_eq_none_iff.mpr absent, Option.map_none]
  | some direction =>
    have present : Entries.get? named.reverse (.text name) ≠ none := by
      rw [Ne, Entries.get?_text_eq_none_iff, reversed, ← Entries.get?_text_eq_none_iff, found]
      exact Option.some_ne_none direction
    obtain ⟨last, ended⟩ := Option.ne_none_iff_exists'.mp present
    rw [ended, Option.map_some, Option.getD_some]

/-! ## Documents that one field tells apart -/

def wholeOf : Value → Int
  | .int number => number
  | _ => 0

def differingIn (name : String) : Collection where
  documents := [.int 0, .int 1]
  accepts := fun _ _ => true
  compare := fun field => if field = .text name then compareOn wholeOf else fun _ _ => .eq
  ordered := by
    intro field
    split
    · infer_instance
    · exact { eq_swap := rfl, isLE_trans := fun _ _ => rfl }

def compareIn : Option Direction → Ordering
  | none => .eq
  | some .ascending => .lt
  | some .descending => .gt

private theorem compareIn_injective {first second : Option Direction} (same : compareIn first = compareIn second) :
    first = second := by
  rcases first with _ | _ | _ <;> rcases second with _ | _ | _ <;> first | rfl | cases same

theorem compareBy_differingIn (name : String) (order : SortOrder) :
    (differingIn name).compareBy order (.int 0) (.int 1) =
      compareIn (Entries.get? order (.text name)) := by
  induction order with
  | nil => rfl
  | cons entry order ih =>
    rcases entry with ⟨key, direction⟩
    rw [Collection.compareBy, compareLex, Entries.get?_cons_text]
    by_cases here : key = .text name
    · have apart : (differingIn name).compare key = compareOn wholeOf := if_pos here
      rw [if_pos here]
      cases direction with
      | ascending =>
        rw [Collection.compareField, apart]
        rfl
      | descending =>
        rw [Collection.compareField, apart]
        rfl
    · have tied : (differingIn name).compareField key direction (.int 0) (.int 1) = .eq := by
        rw [Collection.compareField_eq_iff, differingIn]
        simp only [if_neg here]
      rw [if_neg here, tied, ih]
      rfl

/-! ## What a sort text means -/

private theorem keys_of_names (texts : ∀ property ∈ registry.properties, ∃ name, property.canonicalName = .text name)
    {terms : List SortTerm} (names : Names registry terms named) :
    ∀ key ∈ Entries.keys named, ∃ name, key = .text name := by
  refine List.forall_mem_map.mpr fun entry member => ?_
  obtain ⟨term, -, known, -⟩ := exists_source names member
  rw [termField] at known
  split at known
  next => exact ⟨term.name, (Except.ok.inj known).symm⟩
  next =>
    split at known
    next property found =>
      rw [← Except.ok.inj known]
      exact texts property (Registry.mem_properties_of_mem_filterable
        (Registry.mem_filterable_of_resolveFilterable found))
    next => cases known

/-- An order that was read from a text orders documents as the segments of the text do from left to right when
each has the direction in which its field is named last. So it orders them as the segments do in their own
directions exactly if every field is named last in the direction in which it is named first. -/
theorem order_sorts_as_named_iff (registry : Registry)
    (texts : ∀ property ∈ registry.properties, ∃ name, property.canonicalName = .text name)
    (text : String) (order : SortOrder)
    (parsed : parseSort registry (.text text) = .ok (some order)) :
    ∃ named, Names registry (sortTerms text) named ∧
      (∀ (collection : Collection) (first second : Value),
        collection.compareBy order first second =
          collection.compareBy (lastDirections named) first second) ∧
      ((∀ (collection : Collection) (first second : Value),
          collection.compareBy order first second = collection.compareBy named first second) ↔
        ∀ field : String,
          Entries.get? named.reverse (.text field) = Entries.get? named (.text field)) := by
  obtain ⟨-, named, names, rfl⟩ := parseSort_text_eq_ok_iff.mp parsed
  have keyed := keys_of_names texts names
  refine ⟨named, names, fun collection => ?_, ?_⟩
  · exact compareBy_ofSettings keyed keys_lastDirections fun _ => get?_lastDirections.symm
  constructor
  · intro same field
    have told := same (differingIn field) (.int 0) (.int 1)
    rw [compareBy_differingIn, compareBy_differingIn, Entries.ofSettings, Entries.get?_foldl_set keyed] at told
    exact (Option.or_none ..).symm.trans (compareIn_injective told)
  · intro steady collection
    exact compareBy_ofSettings keyed rfl steady

/-- A field may be named the other way in between, if it is named last as it is named first. -/
theorem order_sorts_as_named_iff_steady :
    let order : SortOrder := [(.text "created_at", .ascending), (.text "type_name", .ascending)]
    let named : SortOrder := [(.text "created_at", .ascending), (.text "type_name", .ascending),
      (.text "created_at", .descending), (.text "created_at", .ascending)]
    (∀ property ∈ Registry.ofFiles.properties, ∃ name, property.canonicalName = .text name) ∧
      parseSort Registry.ofFiles (.text "created;typeName;-created_at;+created") = .ok (some order) ∧
      Names Registry.ofFiles (sortTerms "created;typeName;-created_at;+created") named ∧
      ∀ (collection : Collection) (first second : Value),
        collection.compareBy order first second = collection.compareBy named first second := by
  intro order named
  have texts : ∀ property ∈ Registry.ofFiles.properties, ∃ name, property.canonicalName = .text name :=
    fun property member => (Registry.ofFiles_namesFields property member).imp fun _ plain => plain.1
  have parsed : parseSort Registry.ofFiles (.text "created;typeName;-created_at;+created") =
      .ok (some order) := by rfl
  have spelled : sortTerms "created;typeName;-created_at;+created" = [⟨"created", .ascending⟩,
      ⟨"typeName", .ascending⟩, ⟨"created_at", .descending⟩, ⟨"created", .ascending⟩] := by rfl
  have names : Names Registry.ofFiles (sortTerms "created;typeName;-created_at;+created") named := by
    rw [spelled]
    exact .cons ⟨by rfl, rfl⟩ (.cons ⟨by rfl, rfl⟩ (.cons ⟨by rfl, rfl⟩ (.cons ⟨by rfl, rfl⟩ .nil)))
  obtain ⟨others, same, -, sorts⟩ := order_sorts_as_named_iff Registry.ofFiles texts _ order parsed
  obtain rfl := same.unique names
  refine ⟨texts, parsed, names, sorts.mpr fun field => ?_⟩
  simp only [named, List.reverse_cons, List.reverse_nil, List.nil_append, List.cons_append,
    Entries.get?_cons_text]
  by_cases created : Atom.text "created_at" = .text field
  · rw [if_pos created, if_pos created]
  · simp only [if_neg created]

/-- A field that is named again in the other direction is sorted the other way round. -/
theorem repeated_segment_turns_order :
    let order : SortOrder := [(.text "created_at", .descending)]
    let named : SortOrder := [(.text "created_at", .ascending), (.text "created_at", .descending)]
    parseSort Registry.ofFiles (.text "created;-created") = .ok (some order) ∧
      Names Registry.ofFiles (sortTerms "created;-created") named ∧
      ∃ (collection : Collection) (first second : Value),
        collection.compareBy order first second = .gt ∧ collection.compareBy named first second = .lt := by
  intro order named
  have spelled : sortTerms "created;-created" = [⟨"created", .ascending⟩, ⟨"created", .descending⟩] := by rfl
  refine ⟨by rfl, ?_, differingIn "created_at", .int 0, .int 1, ?_, ?_⟩
  · rw [spelled]
    exact .cons ⟨by rfl, rfl⟩ (.cons ⟨by rfl, rfl⟩ .nil)
  · rw [compareBy_differingIn]
    rfl
  · rw [compareBy_differingIn]
    rfl

end QueryGate.Query
