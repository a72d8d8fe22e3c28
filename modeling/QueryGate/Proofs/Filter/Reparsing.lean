import QueryGate.Proofs.Filter.AllowList
import QueryGate.Proofs.Value.DateInput
/-!
Parsing a filter that was parsed. What a node became becomes itself again, in a registry that keeps its
names: operators and canonical names stay, no key of a map is met twice, moments are moments already, and
what lies below a date the second time lay below one the first time.
-/

namespace QueryGate.Filter

variable {registry : Registry} {limit : Value} {depth : Nat} {trail : Trail} {date again : Option String}

theorem checkDepth_eq_ok : checkDepth limit depth trail = .ok () ↔ limit.atMost? depth = some false := by
  unfold checkDepth
  rcases limit.atMost? depth with _ | _ | _ <;> simp [reject]

theorem RebuiltFrom.shallow {value result : Value} (rebuilt : RebuiltFrom registry limit depth date value result)
    (container : value.isContainer = true) : limit.atMost? depth = some false := by
  obtain ⟨trail, rebuilt⟩ := rebuilt
  cases value with
  | atom leaf => cases container
  | list items =>
    rw [canonicalNode] at rebuilt
    obtain ⟨_, checked, -⟩ := Outcome.bind_eq_ok.mp rebuilt
    exact checkDepth_eq_ok.mp checked
  | map entries =>
    rw [canonicalNode] at rebuilt
    obtain ⟨_, checked, -⟩ := Outcome.bind_eq_ok.mp rebuilt
    exact checkDepth_eq_ok.mp checked

/-! ## Leaves and keys -/

private theorem canonicalNode_ofMoment? {found : Option Calendar.Moment}
    (aware : ∀ moment ∈ found, moment.isAware = true) :
    canonicalNode registry limit depth trail date (Value.ofMoment? found) =
      .ok (Value.ofMoment? found) := by
  have reread := Value.toMoment?_ofMoment? aware
  have leaf {stored : Atom} (same : Value.ofMoment? found = .atom stored) :
      canonicalNode registry limit depth trail date (.atom stored) = .ok (.atom stored) := by
    rw [same] at reread
    rw [canonicalNode, canonicalLeaf.eq_def]
    cases date with
    | none => rfl
    | some name => simp only [canonicalDate, reread, same]
  cases found with
  | none => exact leaf rfl
  | some moment => exact leaf rfl

private theorem canonicalKey_again (plain : registry.NamesFields) (keeps : registry.KeepsNames)
    {taken others : List Atom} {key canonical : Atom} {below : Option String}
    (renamed : canonicalKey registry trail date taken key = .ok (canonical, below))
    (weaker : again.isSome = true → date.isSome = true)
    (fresh : ∀ known ∈ others, known.sameKey canonical = false) (place : Trail) :
    ∃ inner, canonicalKey registry place again others canonical = .ok (canonical, inner) ∧
      (inner.isSome = true → below.isSome = true) := by
  rcases canonicalKey_ok renamed with ⟨operator, rfl, rfl, rfl⟩ | ⟨name, property, rfl, -, found, rfl, -, rfl⟩
  · refine ⟨dateBelow operator again, ?_, ?_⟩
    · simp only [canonicalKey, isOperatorKey_key, Operator.ofKey?_key, ↓reduceIte]
    · unfold dateBelow
      split
      next => exact id
      next => exact weaker
  · have exposed := Registry.mem_filterable_of_resolveFilterable found
    obtain ⟨field, named, bare⟩ := plain property (Registry.mem_properties_of_mem_filterable exposed)
    obtain ⟨_, kept, same, resolved, filterable, canonical, dated⟩ := keeps property exposed
    obtain rfl : field = _ := Atom.text.inj (named.symm.trans same)
    have stays : registry.resolveFilterable field = some kept :=
      Registry.resolveFilterable_eq_some.mpr ⟨resolved, filterable⟩
    have untaken : (others.any fun key => key.sameKey property.canonicalName) = false := by
      simpa using fresh
    refine ⟨if kept.isDate then some field else none, ?_, ?_⟩
    · rw [named] at untaken ⊢
      simp only [canonicalKey, bare, stays, canonical, named, Atom.plain?, Option.isNone_some, untaken,
        Bool.false_eq_true, ↓reduceIte]
    · cases date : kept.isDate with
      | false =>
        intro given
        cases given
      | true => simp [dated date]

/-! ## Trees -/

private theorem canonicalItems_again {items : List Value}
    (each : ∀ item ∈ items, ∀ place, canonicalNode registry limit depth place date item = .ok item)
    (index : Nat) : canonicalItems registry limit depth trail date index items = .ok items := by
  induction items generalizing index with
  | nil => rfl
  | cons item items ih =>
    have here := each item (List.mem_cons_self ..) (.index index :: trail)
    have later := ih (fun other member => each other (List.mem_cons_of_mem _ member)) (index + 1)
    rw [canonicalItems]
    exact Outcome.bind_eq_ok.mpr ⟨item, here, Outcome.bind_eq_ok.mpr ⟨items, later, rfl⟩⟩

def SettledEntry (registry : Registry) (limit : Value) (depth : Nat) (date : Option String)
    (entry : Atom × Value) : Prop :=
  ∀ trail taken, (∀ known ∈ taken, Atom.sameKey known entry.1 = false) →
    ∃ below, canonicalKey registry trail date taken entry.1 = .ok (entry.1, below) ∧
      ∀ place, canonicalNode registry limit depth place below entry.2 = .ok entry.2

private theorem canonicalEntries_again {entries : Entries} {taken : List Atom}
    (each : ∀ entry ∈ entries, SettledEntry registry limit depth date entry)
    (distinct : Entries.Distinct entries)
    (apart : ∀ known ∈ taken, ∀ key ∈ Entries.keys entries, known.sameKey key = false) :
    canonicalEntries registry limit depth trail date taken entries = .ok entries := by
  induction entries generalizing taken with
  | nil => rfl
  | cons entry entries ih =>
    rcases entry with ⟨key, item⟩
    obtain ⟨differs, rest⟩ := List.pairwise_cons.mp distinct
    obtain ⟨below, kept, settled⟩ := each _ (List.mem_cons_self ..) trail taken fun known member =>
      apart known member key (List.mem_cons_self ..)
    have later : canonicalEntries registry limit depth trail date (taken ++ [key]) entries =
        .ok entries := by
      apply ih (fun other member => each other (List.mem_cons_of_mem _ member)) rest
      intro known member other inside
      rcases List.mem_append.mp member with old | new
      · exact apart known old other (List.mem_cons_of_mem _ inside)
      · rw [List.mem_singleton.mp new]
        exact differs other inside
    rw [canonicalEntries]
    refine Outcome.bind_eq_ok.mpr ⟨(key, below), kept, ?_⟩
    exact Outcome.bind_eq_ok.mpr ⟨item, settled _, Outcome.bind_eq_ok.mpr ⟨entries, later, rfl⟩⟩

/-- What a value became becomes itself, below a date only if it was below one before. -/
theorem canonicalNode_again (plain : registry.NamesFields) (keeps : registry.KeepsNames) (value : Value)
    {result : Value} (rebuilt : RebuiltFrom registry limit depth date value result)
    (weaker : again.isSome = true → date.isSome = true) (place : Trail) :
    canonicalNode registry limit depth place again result = .ok result := by
  -- What was below no date may not be below one now; the other way round nothing is lost, since what
  -- was read as a date is a moment or null already.
  induction value using Value.treeInduction generalizing depth date again result place with
  | atom leaf =>
    obtain ⟨trail, rebuilt⟩ := rebuilt
    rw [canonicalNode] at rebuilt
    rcases canonicalLeaf_ok rebuilt with ⟨rfl, rfl⟩ | ⟨found, read, rfl⟩
    · cases again with
      | none => rfl
      | some name => cases weaker rfl
    · exact canonicalNode_ofMoment? (Value.isAware_of_toMoment? read)
  | list items ih =>
    have shallow := rebuilt.shallow rfl
    obtain ⟨trail, rebuilt⟩ := rebuilt
    obtain ⟨others, walked, rfl⟩ := canonicalNode_list_ok rebuilt
    have each : ∀ other ∈ others, ∀ place,
        canonicalNode registry limit (depth + 1) place again other = .ok other := by
      intro other member place
      obtain ⟨item, inside, source⟩ := exists_source (canonicalItems_ok walked) member
      exact ih item inside source weaker place
    rw [canonicalNode]
    exact Outcome.bind_eq_ok.mpr ⟨(), checkDepth_eq_ok.mpr shallow,
      Outcome.bind_eq_ok.mpr ⟨others, canonicalItems_again each 0, rfl⟩⟩
  | map entries ih =>
    have shallow := rebuilt.shallow rfl
    obtain ⟨trail, rebuilt⟩ := rebuilt
    obtain ⟨settings, walked, rfl⟩ := canonicalNode_map_ok rebuilt
    have pairs := canonicalEntries_ok walked
    have texts : ∀ key ∈ Entries.keys settings, ∃ name, key = .text name := by
      intro key member
      obtain ⟨setting, inside, rfl⟩ := List.mem_map.mp member
      obtain ⟨_, -, _, _, _, renamed, -⟩ := exists_source pairs inside
      obtain ⟨name, text, -⟩ := (canonicalKey_allowed plain renamed).1
      exact ⟨name, text⟩
    have distinct := Entries.distinct_ofSettings settings
    have each : ∀ entry ∈ Entries.ofSettings settings,
        SettledEntry registry limit (depth + 1) again entry := by
      intro entry member trail taken fresh
      obtain ⟨source, inside, _, _, below, renamed, value⟩ :=
        exists_source pairs (Entries.mem_of_mem_ofSettings texts member)
      obtain ⟨inner, kept, weaker⟩ := canonicalKey_again plain keeps renamed weaker fresh trail
      exact ⟨inner, kept, fun place => ih source inside value weaker place⟩
    rw [canonicalNode]
    refine Outcome.bind_eq_ok.mpr ⟨(), checkDepth_eq_ok.mpr shallow, Outcome.bind_eq_ok.mpr
      ⟨Entries.ofSettings settings, canonicalEntries_again each distinct (by simp), ?_⟩⟩
    rw [Entries.ofSettings_of_distinct distinct]

/-! ## Whole filters -/

theorem parse_again (plain : registry.NamesFields) (keeps : registry.KeepsNames)
    (roomy : limit.atMost? 0 = some false) {filter canonical : Value}
    (parsed : parse registry limit filter = .ok canonical) :
    parse registry limit canonical = .ok canonical := by
  have rebuilt : canonicalNode registry limit 0 [] none canonical = .ok canonical := by
    rcases (parse_ok parsed).1 with ⟨-, rfl⟩ | rebuilt
    · rw [canonicalNode]
      exact Outcome.bind_eq_ok.mpr ⟨(), checkDepth_eq_ok.mpr roomy, rfl⟩
    · exact canonicalNode_again plain keeps filter rebuilt id []
  have valid := parse_valid parsed
  cases canonical with
  | atom leaf => cases valid
  | list items => cases valid
  | map entries => exact parse_map_eq_ok_iff.mpr ⟨rebuilt, valid⟩

end QueryGate.Filter
