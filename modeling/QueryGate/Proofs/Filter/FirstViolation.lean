import QueryGate.Proofs.Filter.AllowList
import QueryGate.Proofs.Filter.Places
import QueryGate.Proofs.Filter.Validation
import QueryGate.Proofs.Filter.Visits
import QueryGate.Proofs.Value.Writing
import QueryGate.Report
/-!
Rejections are exact. Rebuilding a filter fails with the first violation of the way through it, and without
a violation it gives the image of the filter, which the grammar then accepts or refuses. A rejection is
reported to the caller unless it names a limit of more digits than can be written.
-/

namespace QueryGate.Filter

open QueryGate.Outcome

variable {registry : Registry} {limit : Value}

/-! ## One visit -/

theorem checkDepth_eq (depth : Nat) (trail : Trail) :
    checkDepth limit depth trail = refuseIf (depthViolation? limit depth trail) () := by
  rw [checkDepth, depthViolation?]
  rcases limit.atMost? depth with _ | _ | _ <;> rfl

theorem canonicalLeaf_eq (keys : List Atom) (trail : Trail) (leaf : Atom) :
    canonicalLeaf (comparedDate? registry keys) trail leaf =
      refuseIf (leafViolation? (comparedDate? registry keys) trail leaf)
        (storedLeaf registry keys leaf) := by
  unfold canonicalLeaf canonicalDate leafViolation? storedLeaf
  cases comparedDate? registry keys with
  | none => rfl
  | some name => cases (Value.atom leaf).toMoment? <;> rfl

private theorem any_sameKey_iff (plain : registry.NamesFields) {name : String} {property : Property}
    (found : registry.resolveFilterable name = some property) (taken : List Atom) :
    (taken.any fun key => key.sameKey property.canonicalName) = true ↔
      property.canonicalName ∈ taken := by
  have exposed := Registry.mem_filterable_of_resolveFilterable found
  obtain ⟨field, named, -⟩ := plain property (Registry.mem_properties_of_mem_filterable exposed)
  simp [named, Atom.sameKey_text_iff]

private theorem canonicalKey_eq (plain : registry.NamesFields) (keys : List Atom) (trail : Trail)
    (taken : List Atom) (key : Atom) :
    canonicalKey registry trail (comparedDate? registry keys) taken key =
      refuseIf (keyViolation? registry trail taken key)
        (storedKey registry key, comparedDate? registry (key :: keys)) := by
  cases key with
  | text name =>
    rw [canonicalKey, keyViolation?, storedKey]
    by_cases sigilled : isOperatorKey name = true
    · simp only [if_pos sigilled]
      cases found : Operator.ofKey? name with
      | none =>
        rw [if_neg (ofKey?_eq_none_iff.mp found)]
        rfl
      | some operator =>
        obtain rfl := Operator.key_of_ofKey? found
        rw [if_pos (List.mem_map_of_mem (Operator.mem_allowed operator)), comparedDate?_operator]
        rfl
    · simp only [if_neg sigilled]
      cases found : registry.resolveFilterable name with
      | none => rfl
      | some property =>
        have resolved := (Registry.resolveFilterable_eq_some.mp found).1
        obtain ⟨field, named, -⟩ := plain property (Registry.mem_of_resolve resolved)
        have written : property.canonicalName.plain?.isNone = false := by rw [named]; rfl
        simp only [any_sameKey_iff plain found taken, written, Bool.false_eq_true, ↓reduceIte]
        by_cases known : property.canonicalName ∈ taken
        · simp only [if_pos known]
          rfl
        · rw [comparedDate?_property (by simpa using sigilled) resolved]
          simp only [if_neg known, resolved]
          rfl
  | _ => rfl

/-! ## The keys of a map -/

private theorem storedKey_differs (plain : registry.NamesFields) {place : Trail} {taken others : List Atom}
    {early late : Atom} (allowed : keyViolation? registry place taken early = none)
    (fresh : keyViolation? registry place others late = none)
    (before : storedKey registry early ∈ others) (different : early.sameKey late = false) :
    (storedKey registry early).sameKey (storedKey registry late) = false := by
  have field {name : String} {property : Property}
      (found : registry.resolveFilterable name = some property) :
      ∃ field, property.canonicalName = .text field ∧ isOperatorKey field = false :=
    plain property (Registry.mem_properties_of_mem_filterable
      (Registry.mem_filterable_of_resolveFilterable found))
  -- Operators stay apart as they are; a canonical name is no operator, and new if it is the later one.
  rcases keyViolation?_eq_none fresh with ⟨operator, rfl, same⟩ | ⟨_, property, -, -, found, same, new⟩
  · rw [same]
    rcases keyViolation?_eq_none allowed with ⟨_, -, kept⟩ | ⟨_, other, -, -, named, kept, -⟩
    · rwa [kept]
    · obtain ⟨text, canonical, bare⟩ := field named
      rw [kept, canonical, Atom.sameKey_text, beq_eq_false_iff_ne]
      rintro rfl
      rw [isOperatorKey_key] at bare
      cases bare
  · obtain ⟨text, canonical, -⟩ := field found
    rw [same, canonical, ← Bool.not_eq_true, Atom.sameKey_text_iff, ← canonical]
    rintro repeated
    exact new (repeated ▸ before)

/-- Without a violation no entry of a map is lost to another. -/
theorem distinct_imageOfEntries (plain : registry.NamesFields) {place : Trail} {keys earlier : List Atom}
    {entries : Entries} (distinct : Entries.Distinct entries)
    (allowed : ∀ visit ∈ visitsOfEntries place earlier entries, violation? registry limit visit = none) :
    Entries.Distinct (imageOfEntries registry keys entries) := by
  induction entries generalizing earlier with
  | nil => exact .nil
  | cons entry entries ih =>
    rcases entry with ⟨key, item⟩
    rw [visitsOfEntries] at allowed
    obtain ⟨differs, rest⟩ := List.pairwise_cons.mp distinct
    have here := allowed _ (List.mem_cons_self ..)
    have later : ∀ visit ∈ visitsOfEntries place (earlier ++ [key]) entries,
        violation? registry limit visit = none := fun visit member =>
      allowed visit (List.mem_cons_of_mem _ (List.mem_append_right _ member))
    refine List.pairwise_cons.mpr ⟨?_, ih rest later⟩
    change ∀ stored ∈ Entries.keys (imageOfEntries registry keys entries), _
    rw [keys_imageOfEntries, List.forall_mem_map]
    intro late member
    obtain ⟨entry, inside, rfl⟩ := List.mem_map.mp member
    obtain ⟨before, included, visited⟩ := exists_key_visit place (earlier ++ [key]) inside
    have met : key ∈ before := included (List.mem_append_right _ (List.mem_singleton_self key))
    exact storedKey_differs plain here (later _ visited) (List.mem_map_of_mem met)
      (differs _ (List.mem_map_of_mem inside))

/-! ## Whole trees -/

def RebuiltExactly (registry : Registry) (limit value : Value) : Prop :=
  ∀ place : Trail,
    canonicalNode registry limit place.length (storedPlace registry place)
        (comparedDate? registry place.keys) value =
      refuseIf (firstViolation? registry limit (visitsAt place value)) (image registry place.keys value)

private theorem canonicalItems_eq (place : Trail) {items : List Value}
    (each : ∀ item ∈ items, RebuiltExactly registry limit item) (index : Nat) :
    canonicalItems registry limit (place.length + 1) (storedPlace registry place)
        (comparedDate? registry place.keys) index items =
      refuseIf (firstViolation? registry limit (visitsOfItems place index items))
        (imageOfItems registry place.keys items) := by
  induction items generalizing index with
  | nil => rfl
  | cons item items ih =>
    have here : canonicalNode registry limit (place.length + 1)
        (.index index :: storedPlace registry place) (comparedDate? registry place.keys) item = _ :=
      each item (List.mem_cons_self ..) (.index index :: place)
    have later := ih (fun other member => each other (List.mem_cons_of_mem _ member)) (index + 1)
    rw [canonicalItems, visitsOfItems, firstViolation?_append, here]
    apply refuseIf_bind
    rw [later]
    exact refuseIf_bind_ok ..

private theorem canonicalEntries_eq (plain : registry.NamesFields) (place : Trail) {entries : Entries}
    (each : ∀ entry ∈ entries, RebuiltExactly registry limit entry.2) (earlier : List Atom) :
    canonicalEntries registry limit (place.length + 1) (storedPlace registry place)
        (comparedDate? registry place.keys) (earlier.map (storedKey registry)) entries =
      refuseIf (firstViolation? registry limit (visitsOfEntries place earlier entries))
        (imageOfEntries registry place.keys entries) := by
  induction entries generalizing earlier with
  | nil => rfl
  | cons entry entries ih =>
    rcases entry with ⟨key, item⟩
    have here : canonicalNode registry limit (place.length + 1)
        (.key (storedKey registry key) :: storedPlace registry place)
        (comparedDate? registry (key :: place.keys)) item = _ :=
      each _ (List.mem_cons_self ..) (.key key :: place)
    have later := ih (fun other member => each other (List.mem_cons_of_mem _ member)) (earlier ++ [key])
    rw [List.map_append, List.map_singleton] at later
    rw [canonicalEntries, canonicalKey_eq plain, visitsOfEntries, firstViolation?_cons,
      firstViolation?_append]
    apply refuseIf_bind
    simp only [here]
    apply refuseIf_bind
    rw [later]
    exact refuseIf_bind_ok ..

theorem rebuiltExactly (plain : registry.NamesFields) (value : Value)
    (distinct : value.HasDistinctKeys) : RebuiltExactly registry limit value := by
  intro place
  -- The place says all that the walk is told on its way down: depth, canonical place and date.
  induction value using Value.treeInduction generalizing place with
  | atom leaf =>
    rw [canonicalNode, canonicalLeaf_eq, visitsAt, firstViolation?_cons, image]
    exact congrArg (refuseIf · _) (Option.or_none ..).symm
  | list items ih =>
    have each : ∀ item ∈ items, RebuiltExactly registry limit item :=
      fun item member => ih item member (Value.hasDistinctKeys_list.mp distinct item member)
    rw [canonicalNode, checkDepth_eq, visitsAt, firstViolation?_cons, image]
    apply refuseIf_bind
    rw [canonicalItems_eq place each]
    exact refuseIf_bind_ok ..
  | map entries ih =>
    obtain ⟨keys, below⟩ := Value.hasDistinctKeys_map.mp distinct
    have each : ∀ entry ∈ entries, RebuiltExactly registry limit entry.2 :=
      fun entry member => ih entry member (below entry member)
    rw [canonicalNode, checkDepth_eq, visitsAt, firstViolation?_cons, image]
    apply refuseIf_bind
    have walked := canonicalEntries_eq plain place each []
    rw [List.map_nil] at walked
    rw [walked, refuseIf_bind_ok]
    -- Only entries without a violation are collected, so none of them overwrites another.
    cases violated : firstViolation? registry limit (visitsOfEntries place [] entries) with
    | some rejection => rfl
    | none =>
      have allowed := firstViolation?_eq_none_iff.mp violated
      rw [Entries.ofSettings_of_distinct (distinct_imageOfEntries plain keys allowed)]

/-! ## Whole filters -/

/-- Parsing a map is judged in two steps: by the rules for the walk, and by the grammar. -/
theorem parse_map_eq (plain : registry.NamesFields) {entries : Entries}
    (distinct : (Value.map entries).HasDistinctKeys) :
    parse registry limit (.map entries) =
      match firstViolation? registry limit (visits (.map entries)) with
      | some rejection => .error rejection
      | none =>
        (validate (image registry [] (.map entries))).map fun _ => image registry [] (.map entries) := by
  have rebuilt : canonicalNode registry limit 0 [] none (.map entries) =
      refuseIf (firstViolation? registry limit (visits (.map entries)))
        (image registry [] (.map entries)) :=
    rebuiltExactly plain (.map entries) distinct []
  rw [parse, rebuilt]
  cases firstViolation? registry limit (visits (.map entries)) with
  | some rejection => rfl
  | none =>
    change (if (image registry [] (.map entries)).isVacant then _ else _) = _
    split
    next vacant =>
      -- The grammar admits the map without entries, so it does not matter that it is not asked.
      have empty : image registry [] (.map entries) = .empty := by
        rw [image] at vacant ⊢
        rw [List.isEmpty_iff.mp vacant]
      rw [empty]
      rfl
    next => cases validate (image registry [] (.map entries)) <;> rfl

theorem image_hasTextKeys (plain : registry.NamesFields) {entries : Entries}
    (distinct : (Value.map entries).HasDistinctKeys)
    (allowed : firstViolation? registry limit (visits (.map entries)) = none) :
    (image registry [] (.map entries)).HasTextKeys := by
  have rebuilt : RebuiltFrom registry limit 0 none (.map entries) (image registry [] (.map entries)) :=
    ⟨[], (rebuiltExactly plain (.map entries) distinct []).trans
      (refuseIf_eq_ok.mpr ⟨allowed, rfl⟩)⟩
  intro key member
  obtain ⟨name, text, -⟩ := (rebuilt_keys_allowed plain (.map entries) rebuilt).1 key member
  exact ⟨name, text⟩

/-! ## Reports -/

def Rejection.ConcernsFilter (rejection : Rejection) : Prop :=
  ∃ report, rejection.report? = some report ∧ FailureKind.filter ∈ report.kind.lineage

private theorem concernsFilter_unknownProperty (name : String) :
    (Rejection.unknownProperty name).ConcernsFilter :=
  ⟨_, rfl, show FailureKind.filter ∈ FailureKind.lineage .unknownProperty by decide⟩

private theorem concernsFilter_disallowedOperator (key : String) :
    (Rejection.disallowedOperator key).ConcernsFilter :=
  ⟨_, rfl, show FailureKind.filter ∈ FailureKind.lineage .disallowedOperator by decide⟩

theorem concernsFilter_flaw {flaw : Flaw} {trail : Trail} (told : flaw.detail?.isSome = true)
    (texts : HasTextSteps trail) : (Rejection.flaw flaw trail).ConcernsFilter := by
  obtain ⟨detail, said⟩ := Option.isSome_iff_exists.mp told
  obtain ⟨label, labelled⟩ := texts.exists_label?
  have shown : ∃ place, (if (Value.text label).isVacant then Value.text rootLabel else .text label) =
      .text place := by
    split
    next => exact ⟨_, rfl⟩
    next => exact ⟨_, rfl⟩
  obtain ⟨place, shown⟩ := shown
  have reported : (Rejection.flaw flaw trail).report? = some (Report.rejection .schema
      (flawReason detail place) [("path", .text place), ("detail", .text detail)]) := by
    rw [Rejection.report?, said, labelled]
    change Report.schema? (.text detail) (.text label) = _
    rw [Report.schema?, shown]
    rfl
  exact ⟨_, reported, show FailureKind.filter ∈ FailureKind.lineage .schema by decide⟩

def Rejection.NamesOverlong (depthLimit : Int) (rejection : Rejection) : Prop :=
  Number.IsOverlong depthLimit ∧ ∃ trail, rejection = .flaw (.tooDeep (.int depthLimit)) trail

theorem report?_eq_none_of_namesOverlong {depthLimit : Int} {rejection : Rejection}
    (overlong : rejection.NamesOverlong depthLimit) : rejection.report? = none := by
  obtain ⟨long, trail, rfl⟩ := overlong
  have unsaid : (Flaw.tooDeep (.int depthLimit)).detail? = none := by
    rw [Flaw.detail?, Value.plain?_eq_none_iff.mpr (Value.holdsOverlong_int.mpr long), Option.map_none]
  rw [Rejection.report?, unsaid]
  rfl

private theorem hasTextSteps_storedPlace (plain : registry.NamesFields) {place : Trail}
    (texts : HasTextSteps place) : HasTextSteps (storedPlace registry place) := by
  intro key passed
  obtain ⟨step, member, same⟩ := List.mem_map.mp passed
  cases step with
  | index position => cases same
  | key caller =>
    obtain ⟨name, rfl⟩ := texts caller member
    obtain rfl := Step.key.inj same
    rw [storedKey]
    split
    next => exact ⟨name, rfl⟩
    next =>
      cases found : registry.resolve name with
      | none => exact ⟨name, rfl⟩
      | some property => exact (plain property (Registry.mem_of_resolve found)).imp fun _ named => named.1

private theorem keyViolation?_concernsFilter (plain : registry.NamesFields) {place : Trail}
    (steps : HasTextSteps place) {taken : List Atom} {name : String} {rejection : Rejection}
    (violated : keyViolation? registry place taken (.text name) = some rejection) :
    rejection.ConcernsFilter := by
  rw [keyViolation?] at violated
  by_cases sigilled : isOperatorKey name = true
  · rw [if_pos sigilled, Option.ite_none_left_eq_some] at violated
    obtain ⟨-, ⟨⟩⟩ := violated
    exact concernsFilter_disallowedOperator name
  · rw [if_neg sigilled] at violated
    cases found : registry.resolveFilterable name with
    | none =>
      simp only [found] at violated
      cases violated
      exact concernsFilter_unknownProperty name
    | some property =>
      simp only [found, Option.ite_none_right_eq_some] at violated
      obtain ⟨-, ⟨⟩⟩ := violated
      have resolved := (Registry.resolveFilterable_eq_some.mp found).1
      obtain ⟨field, named, -⟩ := plain property (Registry.mem_of_resolve resolved)
      exact concernsFilter_flaw (by rw [named]; rfl) steps

theorem depthViolation?_int (depthLimit : Int) (depth : Nat) (trail : Trail) :
    depthViolation? (.int depthLimit) depth trail =
      if depthLimit ≤ depth then some (.flaw (.tooDeep (.int depthLimit)) trail) else none := by
  by_cases deep : depthLimit ≤ depth <;> simp [depthViolation?, Value.atMost?, Atom.atMost?, deep]

private theorem depthFlaw_concernsFilter {depthLimit : Int} {trail : Trail} (steps : HasTextSteps trail)
    (short : ¬(Rejection.flaw (.tooDeep (.int depthLimit)) trail).NamesOverlong depthLimit) :
    (Rejection.flaw (.tooDeep (.int depthLimit)) trail).ConcernsFilter := by
  refine concernsFilter_flaw ?_ steps
  rw [Flaw.detail?, Option.isSome_map, Option.isSome_iff_ne_none]
  intro unsaid
  have long := Value.holdsOverlong_int.mp (Value.plain?_eq_none_iff.mp unsaid)
  exact short ⟨long, trail, rfl⟩

private theorem firstViolation?_concernsFilter (plain : registry.NamesFields) {depthLimit : Int} {filter : Value}
    (texts : filter.HasTextKeys) {rejection : Rejection}
    (first : firstViolation? registry (.int depthLimit) (visits filter) = some rejection)
    (short : ¬rejection.NamesOverlong depthLimit) : rejection.ConcernsFilter := by
  obtain ⟨visit, visited, violated⟩ := List.exists_of_findSome?_eq_some first
  have steps : HasTextSteps (storedPlace registry visit.place) :=
    hasTextSteps_storedPlace plain fun key passed =>
      texts key ((mem_everyKey_of_place visited passed).resolve_left List.not_mem_nil)
  cases visit with
  | container place =>
    rw [violation?, depthViolation?_int, Option.ite_none_right_eq_some] at violated
    obtain ⟨-, ⟨⟩⟩ := violated
    exact depthFlaw_concernsFilter steps short
  | key place earlier key =>
    obtain ⟨name, rfl⟩ := texts key (mem_everyKey_of_visit visited)
    exact keyViolation?_concernsFilter plain steps violated
  | leaf place leaf =>
    rw [violation?] at violated
    unfold leafViolation? at violated
    split at violated
    next =>
      cases violated
      exact concernsFilter_flaw rfl steps
    next => cases violated

/-- What the grammar finds in a value with texts as keys is reported. -/
theorem validate_concernsFilter {value : Value} (texts : value.HasTextKeys) {flaw : Flaw} {trail : Trail}
    (invalid : validate value = .error (.flaw flaw trail)) : (Rejection.flaw flaw trail).ConcernsFilter := by
  have located := (flawsInside value).clause []
  rw [← validate, invalid] at located
  obtain ⟨told, inner, inside, rfl⟩ := located flaw trail rfl
  rw [List.append_nil]
  exact concernsFilter_flaw told fun key passed => texts key (inside.mem_everyKey passed)

/-! ## Rejections of filters -/

theorem parse_violated (plain : registry.NamesFields) {entries : Entries}
    (distinct : (Value.map entries).HasDistinctKeys) {rejection : Rejection}
    (violated : firstViolation? registry limit (visits (.map entries)) = some rejection) :
    parse registry limit (.map entries) = .error rejection := by
  rw [parse_map_eq plain distinct, violated]

/-- The grammar has the last word on a filter without a violation. -/
theorem parse_unviolated (plain : registry.NamesFields) {entries : Entries}
    (distinct : (Value.map entries).HasDistinctKeys)
    (unviolated : firstViolation? registry limit (visits (.map entries)) = none) :
    let rewritten := image registry [] (.map entries)
    validate rewritten = .ok () ∧ parse registry limit (.map entries) = .ok rewritten ∨
      ∃ flaw trail, validate rewritten = .error (.flaw flaw trail) ∧
        parse registry limit (.map entries) = .error (.flaw flaw trail) := by
  intro rewritten
  have judged : parse registry limit (.map entries) = (validate rewritten).map fun _ => rewritten := by
    rw [parse_map_eq plain distinct, unviolated]
  have decided := (checked_of_texts rewritten (image_hasTextKeys plain distinct unviolated)).clause []
  by_cases clause : Clause rewritten
  · have valid : validate rewritten = .ok () := decided.eq_ok_iff.mpr clause
    refine .inl ⟨valid, ?_⟩
    rw [judged, valid]
    rfl
  · obtain ⟨flaw, trail, invalid⟩ := decided.exists_flaw clause
    refine .inr ⟨flaw, trail, invalid, ?_⟩
    rw [judged, validate, invalid]
    rfl

/-- A filter is rejected for its first violation. Without one its image is what parsing gives, or is
refused for a flaw that the grammar finds in it. Every rejection is reported as a matter of the filter, but for one:
a depth limit of more digits than can be written cannot be named, and where it is exceeded nothing is reported. -/
theorem parse_reports_first_violation (registry : Registry) (plain : registry.NamesFields)
    (depthLimit : Int) (entries : Entries) (texts : (Value.map entries).HasTextKeys)
    (distinct : (Value.map entries).HasDistinctKeys) :
    let filter := Value.map entries
    let first := firstViolation? registry (.int depthLimit) (visits filter)
    let rewritten := image registry [] filter
    let outcome := parse registry (.int depthLimit) filter
    (∀ rejection, first = some rejection → outcome = .error rejection) ∧
      (first = none → validate rewritten = .ok () ∧ outcome = .ok rewritten ∨
        ∃ flaw trail, validate rewritten = .error (.flaw flaw trail) ∧
          outcome = .error (.flaw flaw trail)) ∧
      ∀ rejection, outcome = .error rejection →
        (¬rejection.NamesOverlong depthLimit → rejection.ConcernsFilter) ∧
          (rejection.NamesOverlong depthLimit → rejection.report? = none) := by
  intro filter first rewritten outcome
  have reported : ∀ rejection, first = some rejection → outcome = .error rejection :=
    fun rejection violated => parse_violated plain distinct violated
  have judged : first = none → _ := parse_unviolated plain distinct
  refine ⟨reported, judged, ?_⟩
  intro rejection refused
  refine ⟨fun short => ?_, report?_eq_none_of_namesOverlong⟩
  cases violated : first with
  | some other =>
    obtain rfl := Except.error.inj ((reported other violated).symm.trans refused)
    exact firstViolation?_concernsFilter plain texts violated short
  | none =>
    rcases judged violated with ⟨-, parsed⟩ | ⟨flaw, trail, invalid, flawed⟩
    · cases parsed.symm.trans refused
    · obtain rfl := Except.error.inj (flawed.symm.trans refused)
      exact validate_concernsFilter (image_hasTextKeys plain distinct violated) invalid

/-- A leaf that is no date comes before an operator that is not allowed, and is reported under canonical
names but for the property, which keeps the name that the caller used. -/
theorem parse_reports_unreadable_date :
    let filter : Value := .map [(.text "$or", .list [.map [(.text "typeName", .bool true)],
      .map [(.text "created", .map [(.text "$gte", .bool true), (.text "$where", .null)])]])]
    let rejection : Rejection := .flaw (.date "created" (.boolean true))
      [.key (.text "$gte"), .key (.text "created_at"), .index 1, .key (.text "$or")]
    Registry.ofFiles.NamesFields ∧ filter.HasTextKeys ∧ filter.HasDistinctKeys ∧
      firstViolation? Registry.ofFiles (.int 7) (visits filter) = some rejection ∧
      parse Registry.ofFiles (.int 7) filter = .error rejection ∧ rejection.ConcernsFilter := by
  intro filter rejection
  have texts : filter.HasTextKeys := by
    simp [filter, Value.HasTextKeys, Value.mem_everyKey_map, Value.mem_everyKey_list]
  have distinct : filter.HasDistinctKeys := by
    simp [filter, Entries.Distinct, Entries.keys, Atom.sameKey_text]
  have first : firstViolation? Registry.ofFiles (.int 7) (visits filter) = some rejection := by rfl
  obtain ⟨reported, -, concerned⟩ :=
    parse_reports_first_violation Registry.ofFiles Registry.ofFiles_namesFields 7 _ texts distinct
  have refused := reported rejection first
  have short : ¬rejection.NamesOverlong 7 := fun overlong =>
    Number.not_isOverlong_of_lt (by decide) overlong.1
  exact ⟨Registry.ofFiles_namesFields, texts, distinct, first, refused, (concerned _ refused).1 short⟩

/-- Under a limit that is far below zero and cannot be written, the map without conditions is too deep, and
nothing is reported. -/
theorem overlong_limit_unreported :
    let depthLimit := -Number.leastOverlong
    let rejection : Rejection := .flaw (.tooDeep (.int depthLimit)) []
    Registry.ofFiles.NamesFields ∧ Value.empty.HasTextKeys ∧ Value.empty.HasDistinctKeys ∧
      firstViolation? Registry.ofFiles (.int depthLimit) (visits .empty) = some rejection ∧
      parse Registry.ofFiles (.int depthLimit) .empty = .error rejection ∧
      rejection.report? = none := by
  intro depthLimit rejection
  have texts : Value.empty.HasTextKeys := by simp [Value.HasTextKeys, Value.mem_everyKey_map]
  have distinct : Value.empty.HasDistinctKeys := by simp [Entries.Distinct, Entries.keys]
  have below : depthLimit ≤ (0 : Nat) := Int.neg_nonpos_of_nonneg (Int.le_of_lt Number.leastOverlong_pos)
  have first : firstViolation? Registry.ofFiles (.int depthLimit) (visits .empty) = some rejection := by
    have judged : violation? Registry.ofFiles (.int depthLimit) (.container []) = some rejection := by
      rw [violation?, depthViolation?_int]
      exact if_pos below
    rw [visits, visitsAt, firstViolation?_cons, judged, Option.some_or]
  have plain := Registry.ofFiles_namesFields
  have overlong : rejection.NamesOverlong depthLimit :=
    ⟨Number.isOverlong_neg_iff.mpr Number.isOverlong_leastOverlong, [], rfl⟩
  exact ⟨plain, texts, distinct, first, parse_violated plain distinct first,
    report?_eq_none_of_namesOverlong overlong⟩

end QueryGate.Filter
