import QueryGate.Proofs.Filter.FirstViolation
import QueryGate.Proofs.Value.DateInput
/-!
Parsed filters are images. A filter that is parsed keeps its shape and all its conditions: every key stays
or becomes canonical in its place, and every leaf stays or becomes the moment it was read as.
-/

namespace QueryGate.Filter

variable {registry : Registry} {limit : Value}

theorem parse_map_ok (plain : registry.NamesFields) {entries : Entries}
    (distinct : (Value.map entries).HasDistinctKeys) {canonical : Value}
    (parsed : parse registry limit (.map entries) = .ok canonical) :
    firstViolation? registry limit (visits (.map entries)) = none ∧
      canonical = image registry [] (.map entries) := by
  rw [parse_map_eq plain distinct] at parsed
  split at parsed
  next => cases parsed
  next unviolated =>
    obtain ⟨_, -, same⟩ := Outcome.map_eq_ok.mp parsed
    exact ⟨unviolated, same.symm⟩

/-- A leaf that is compared with a date was read as one, if that is no violation. -/
theorem storedLeaf_of_compared {keys : List Atom} {place : Trail} {leaf : Atom}
    (allowed : leafViolation? (comparedDate? registry keys) place leaf = none)
    (compared : (comparedDate? registry keys).isSome = true) :
    ∃ found, (Value.atom leaf).toMoment? = .ok found ∧
      storedLeaf registry keys leaf = Value.ofMoment? found := by
  obtain ⟨name, dated⟩ := Option.isSome_iff_exists.mp compared
  cases read : (Value.atom leaf).toMoment? with
  | error cause =>
    simp only [leafViolation?, dated, read] at allowed
    cases allowed
  | ok found => exact ⟨found, rfl, by simp only [storedLeaf, dated, read]⟩

/-- A parsed filter is the image of what the caller sent. It has the same shape, the caller's keys are all
allowed operators or names of exposed properties, and leaves that are compared with a date have become
moments that are points in time, or null. -/
theorem parse_eq_image (registry : Registry) (plain : registry.NamesFields) (limit : Value)
    (entries : Entries) (distinct : (Value.map entries).HasDistinctKeys) (canonical : Value)
    (parsed : parse registry limit (.map entries) = .ok canonical) :
    let filter := Value.map entries
    canonical = image registry [] filter ∧ SameShape filter canonical ∧
      (∀ key ∈ filter.everyKey, CallerKey registry key) ∧
      ∀ place leaf, .leaf place leaf ∈ visits filter →
        (comparedDate? registry place.keys).isSome = true →
        ∃ found, (Value.atom leaf).toMoment? = .ok found ∧
          storedLeaf registry place.keys leaf = Value.ofMoment? found ∧
          ∀ moment ∈ found, moment.isAware = true := by
  intro filter
  obtain ⟨unviolated, same⟩ := parse_map_ok plain distinct parsed
  have shape : SameShape filter canonical := same ▸ sameShape_image filter []
  have keys : ∀ key ∈ filter.everyKey, CallerKey registry key := by
    rcases (parse_ok parsed).1 with ⟨impossible, -⟩ | rebuilt
    · cases impossible
    · exact (rebuilt_keys_allowed plain filter rebuilt).2
  refine ⟨same, shape, keys, ?_⟩
  intro place leaf visited compared
  have allowed := firstViolation?_eq_none_iff.mp unviolated _ visited
  obtain ⟨found, read, stored⟩ := storedLeaf_of_compared allowed compared
  exact ⟨found, read, stored, Value.isAware_of_toMoment? read⟩

/-- A date without an offset and a text that stands for none, in lists and below operators, beside an
operand that is no date. -/
theorem parse_eq_image_dates :
    let day : Calendar.Moment := ⟨⟨2020, 1, 1, by decide⟩, .midnight, none⟩
    let sent : Value := .map [(.text "$or", .list [
      .map [(.text "created", .map [(.text "$gte", .date day), (.text "$exists", .bool true)])],
      .map [(.text "created", .map [(.text "$in", .list [.text "null"])])]])]
    let stored : Value := .map [(.text "$or", .list [
      .map [(.text "created_at",
        .map [(.text "$gte", .date day.inUniversalTime), (.text "$exists", .bool true)])],
      .map [(.text "created_at", .map [(.text "$in", .list [.null])])]])]
    Registry.ofFiles.NamesFields ∧ sent.HasDistinctKeys ∧
      parse Registry.ofFiles (.int 7) sent = .ok stored ∧ stored = image Registry.ofFiles [] sent ∧
      SameShape sent stored ∧ (∀ key ∈ sent.everyKey, CallerKey Registry.ofFiles key) ∧
      ∃ found, (Value.date day).toMoment? = .ok found ∧ ∀ moment ∈ found, moment.isAware = true := by
  intro day sent stored
  have distinct : sent.HasDistinctKeys := by
    simp [sent, Entries.Distinct, Entries.keys, Atom.sameKey_text]
  have parsed : parse Registry.ofFiles (.int 7) sent = .ok stored :=
    parse_map_of_valid (by rfl) (by rfl) (by rfl)
  obtain ⟨same, shape, keys, leaves⟩ :=
    parse_eq_image Registry.ofFiles Registry.ofFiles_namesFields (.int 7) _ distinct stored parsed
  have visited : .leaf [.key (.text "$gte"), .key (.text "created"), .index 0, .key (.text "$or")]
      (.date day) ∈ visits sent := by
    simp [sent, visits, visitsAt, visitsOfEntries, visitsOfItems]
  obtain ⟨found, read, -, aware⟩ := leaves _ _ visited (by rfl)
  exact ⟨Registry.ofFiles_namesFields, distinct, parsed, same, shape, keys, found, read, aware⟩

end QueryGate.Filter
