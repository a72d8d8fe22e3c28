import Mathlib.Data.Nat.Basic
import Mathlib.Order.Basic
import QueryGate.Proofs.Filter.Reparsing
import QueryGate.Proofs.Filter.Rewriting
import QueryGate.Proofs.Value.Depth
/-!
The depth limit. What lies in a container at the limit is not looked at, so what stands there does not matter
to what comes of a filter. A filter that is parsed lies above the limit as a whole, so a larger limit does
not matter to it either, and what it becomes is nested as deeply, unless an operator has overwritten a
condition that is stored under its key.
-/

namespace QueryGate.Filter

variable {registry : Registry} {limit other : Int} {depth : Nat} {trail : Trail} {date : Option String}

theorem atMost?_eq_false_iff : (Value.int limit).atMost? depth = some false ↔ depth < limit := by
  rw [Value.atMost?, Atom.atMost?_int, Option.some.injEq, decide_eq_false_iff_not, Int.not_le]

/-! ## Below the limit -/

theorem canonicalNode_deep {value : Value} (container : value.isContainer = true)
    (deep : limit ≤ depth) :
    canonicalNode registry (.int limit) depth trail date value =
      reject (.tooDeep (.int limit)) trail := by
  have refused : checkDepth (.int limit) depth trail = reject (.tooDeep (.int limit)) trail := by
    rw [checkDepth_int, if_pos deep]
  cases value with
  | atom leaf => cases container
  | list items =>
    rw [canonicalNode, refused]
    rfl
  | map entries =>
    rw [canonicalNode, refused]
    rfl

/-- The walk does not see more of a value than lies above the limit. -/
theorem canonicalNode_cutAt (value : Value) {level : Nat} (deep : limit ≤ depth + level) :
    canonicalNode registry (.int limit) depth trail date (value.cutAt level) =
      canonicalNode registry (.int limit) depth trail date value := by
  -- At level zero both containers are refused before anything in them is looked at. Above it the level goes
  -- down by one with every container while the depth goes up, so their sum still reaches the limit.
  induction value using Value.treeInduction generalizing level depth trail date with
  | atom leaf => cases level <;> rfl
  | list items ih =>
    cases level with
    | zero => rw [Value.cutAt, canonicalNode_deep rfl (by omega), canonicalNode_deep rfl (by omega)]
    | succ level =>
      have inside : limit ≤ (depth + 1 : Nat) + level := by omega
      rw [Value.cutAt, canonicalNode, canonicalNode,
        canonicalItems_congr (Value.cutAt level) fun item member _ => ih item member inside]
  | map entries ih =>
    cases level with
    | zero => rw [Value.cutAt, canonicalNode_deep rfl (by omega), canonicalNode_deep rfl (by omega)]
    | succ level =>
      have inside : limit ≤ (depth + 1 : Nat) + level := by omega
      rw [Value.cutAt, canonicalNode, canonicalNode,
        canonicalEntries_congr (Value.cutAt level) (fun _ _ _ => rfl) fun entry member _ _ => ih entry member inside]

theorem parse_cutAt (filter : Value) {level : Nat} (deep : limit ≤ level) (positive : 1 ≤ level) :
    parse registry (.int limit) (filter.cutAt level) = parse registry (.int limit) filter := by
  obtain ⟨level, rfl⟩ := Nat.exists_eq_add_of_le' positive
  cases filter with
  | atom leaf => rfl
  | list items => rfl
  | map entries =>
    have walked : canonicalNode registry (.int limit) 0 [] none ((Value.map entries).cutAt (level + 1)) =
        canonicalNode registry (.int limit) 0 [] none (.map entries) :=
      canonicalNode_cutAt (.map entries) (by omega)
    rw [Value.cutAt] at walked ⊢
    rw [parse, parse, walked]

/-! ## Above the limit -/

private theorem nesting_le_of_rebuilt (value : Value) {result : Value}
    (rebuilt : RebuiltFrom registry (.int limit) depth date value result) (within : depth ≤ limit) :
    depth + value.nesting ≤ limit := by
  induction value using Value.treeInduction generalizing depth date result with
  | atom leaf => simpa [Value.nesting] using within
  | list items ih =>
    have shallow : depth < limit := atMost?_eq_false_iff.mp (rebuilt.shallow rfl)
    obtain ⟨trail, rebuilt⟩ := rebuilt
    obtain ⟨others, walked, -⟩ := canonicalNode_list_ok rebuilt
    have bounded : (Value.list items).nesting ≤ (limit - depth).toNat := by
      refine Value.nesting_list_le_iff.mpr ⟨by omega, fun item member => ?_⟩
      obtain ⟨_, -, source⟩ := exists_result (canonicalItems_ok walked) member
      have inner := ih item member source (by omega)
      omega
    omega
  | map entries ih =>
    have shallow : depth < limit := atMost?_eq_false_iff.mp (rebuilt.shallow rfl)
    obtain ⟨trail, rebuilt⟩ := rebuilt
    obtain ⟨settings, walked, -⟩ := canonicalNode_map_ok rebuilt
    have bounded : (Value.map entries).nesting ≤ (limit - depth).toNat := by
      refine Value.nesting_map_le_iff.mpr ⟨by omega, fun entry member => ?_⟩
      obtain ⟨_, -, _, _, _, -, source⟩ := exists_result (canonicalEntries_ok walked) member
      have inner := ih entry member source (by omega)
      omega
    omega

theorem parse_nesting_le (positive : 1 ≤ limit) {filter canonical : Value}
    (parsed : parse registry (.int limit) filter = .ok canonical) : filter.nesting ≤ limit := by
  rcases (parse_ok parsed).1 with ⟨rfl, -⟩ | rebuilt
  · rw [Value.nesting]
    omega
  · simpa using nesting_le_of_rebuilt filter rebuilt (by omega)

/-- The limit does not matter to a value that lies above it. -/
theorem canonicalNode_of_nesting_le (value : Value) (fits : depth + value.nesting ≤ limit)
    (roomy : depth + value.nesting ≤ other) :
    canonicalNode registry (.int other) depth trail date value =
      canonicalNode registry (.int limit) depth trail date value := by
  induction value using Value.treeInduction generalizing depth trail date with
  | atom leaf => rfl
  | list items ih =>
    have some := (Value.nesting_list_le_iff.mp (Nat.le_refl (Value.list items).nesting)).1
    have alike : ∀ item ∈ items, ∀ trail,
        canonicalNode registry (.int other) (depth + 1) trail date item =
          canonicalNode registry (.int limit) (depth + 1) trail date item := by
      intro item member trail
      have inner := Value.nesting_item_lt member
      exact ih item member (by omega) (by omega)
    rw [canonicalNode, canonicalNode, checkDepth_int, checkDepth_int, if_neg (by omega),
      if_neg (by omega), canonicalItems_same alike]
  | map entries ih =>
    have some := (Value.nesting_map_le_iff.mp (Nat.le_refl (Value.map entries).nesting)).1
    have alike : ∀ entry ∈ entries, ∀ trail date,
        canonicalNode registry (.int other) (depth + 1) trail date entry.2 =
          canonicalNode registry (.int limit) (depth + 1) trail date entry.2 := by
      intro entry member trail date
      have inner := Value.nesting_value_lt member
      exact ih entry member (by omega) (by omega)
    rw [canonicalNode, canonicalNode, checkDepth_int, checkDepth_int, if_neg (by omega),
      if_neg (by omega), canonicalEntries_same (fun _ _ _ => rfl) alike]

/-! ## Nesting of the result -/

private theorem nesting_result_le (value : Value) {result : Value}
    (rebuilt : RebuiltFrom registry (.int limit) depth date value result) :
    result.nesting ≤ value.nesting := by
  -- A map may lose entries when two are stored under one key, so only this direction is free of conditions.
  induction value using Value.treeInduction generalizing depth date result with
  | atom leaf =>
    obtain ⟨trail, rebuilt⟩ := rebuilt
    rw [canonicalNode] at rebuilt
    rcases canonicalLeaf_ok rebuilt with ⟨-, rfl⟩ | ⟨moment, -, rfl⟩
    · exact Nat.le_refl _
    · cases moment <;> exact Nat.le_refl _
  | list items ih =>
    obtain ⟨trail, rebuilt⟩ := rebuilt
    obtain ⟨others, walked, rfl⟩ := canonicalNode_list_ok rebuilt
    refine Value.nesting_list_le_iff.mpr ⟨Nat.succ_pos _, fun other inside => ?_⟩
    obtain ⟨item, member, source⟩ := exists_source (canonicalItems_ok walked) inside
    exact Nat.lt_of_le_of_lt (ih item member source) (Value.nesting_item_lt member)
  | map entries ih =>
    obtain ⟨trail, rebuilt⟩ := rebuilt
    obtain ⟨settings, walked, rfl⟩ := canonicalNode_map_ok rebuilt
    refine Value.nesting_map_le_iff.mpr ⟨Nat.succ_pos _, fun kept inside => ?_⟩
    obtain ⟨setting, placed, same⟩ := Entries.exists_value_of_mem_ofSettings inside
    obtain ⟨entry, member, _, _, _, -, source⟩ := exists_source (canonicalEntries_ok walked) placed
    rw [← same]
    exact Nat.lt_of_le_of_lt (ih entry member source) (Value.nesting_value_lt member)

private theorem nesting_image (value : Value) (keys : List Atom) :
    (image registry keys value).nesting = value.nesting := by
  induction value using Value.treeInduction generalizing keys with
  | atom leaf =>
    obtain ⟨stored, same⟩ : ∃ stored, storedLeaf registry keys leaf = .atom stored :=
      storedLeaf_eq_atom leaf
    rw [image, same]
    rfl
  | list items ih =>
    apply eq_of_forall_ge_iff
    intro bound
    rw [image, imageOfItems_eq_map, Value.nesting_list_le_iff, Value.nesting_list_le_iff,
      List.forall_mem_map]
    exact and_congr_right fun _ => forall₂_congr fun item member => by rw [ih item member]
  | map entries ih =>
    apply eq_of_forall_ge_iff
    intro bound
    rw [image, imageOfEntries_eq_map, Value.nesting_map_le_iff, Value.nesting_map_le_iff,
      List.forall_mem_map]
    exact and_congr_right fun _ => forall₂_congr fun entry member => by rw [ih entry member]

/-! ## Conditions that are kept -/

private theorem canonicalKey_stored {keys taken : List Atom} {key canonical : Atom} {below : Option String}
    (renamed : canonicalKey registry trail (comparedDate? registry keys) taken key =
      .ok (canonical, below)) :
    canonical = storedKey registry key ∧ below = comparedDate? registry (key :: keys) := by
  rcases canonicalKey_ok renamed with ⟨operator, rfl, rfl, rfl⟩ | ⟨name, property, rfl, bare, found, rfl, -, rfl⟩
  · constructor
    · rw [storedKey, if_pos (isOperatorKey_key operator)]
    · rw [comparedDate?_operator]
  · have resolved := (Registry.resolveFilterable_eq_some.mp found).1
    constructor
    · simp [storedKey, bare, resolved]
    · rw [comparedDate?_property bare resolved]

/-- A value becomes its image if no two conditions of a map are stored under one key. -/
theorem rebuilt_eq_image (value : Value) {keys : List Atom} {result : Value}
    (apart : (image registry keys value).HasDistinctKeys)
    (rebuilt : RebuiltFrom registry (.int limit) depth (comparedDate? registry keys) value result) :
    result = image registry keys value := by
  induction value using Value.treeInduction generalizing depth keys result with
  | atom leaf =>
    obtain ⟨trail, rebuilt⟩ := rebuilt
    rw [canonicalNode, canonicalLeaf_eq] at rebuilt
    exact (Outcome.refuseIf_eq_ok.mp rebuilt).2.symm
  | list items ih =>
    obtain ⟨trail, rebuilt⟩ := rebuilt
    obtain ⟨others, walked, rfl⟩ := canonicalNode_list_ok rebuilt
    rw [image, imageOfItems_eq_map, Value.hasDistinctKeys_list, List.forall_mem_map] at apart
    have kept : others = items.map (image registry keys) :=
      eq_map_of_pairs (canonicalItems_ok walked) fun item member _ source =>
        ih item member (apart item member) source
    rw [image, imageOfItems_eq_map, kept]
  | map entries ih =>
    obtain ⟨trail, rebuilt⟩ := rebuilt
    obtain ⟨settings, walked, rfl⟩ := canonicalNode_map_ok rebuilt
    rw [image, imageOfEntries_eq_map, Value.hasDistinctKeys_map, List.forall_mem_map] at apart
    have kept : settings = entries.map fun entry =>
        (storedKey registry entry.1, image registry (entry.1 :: keys) entry.2) := by
      apply eq_map_of_pairs (canonicalEntries_ok walked)
      rintro entry member ⟨canonical, first⟩ ⟨_, _, below, renamed, source⟩
      obtain ⟨rfl, rfl⟩ := canonicalKey_stored renamed
      have same : first = image registry (entry.1 :: keys) entry.2 :=
        ih entry member (apart.2 entry member) source
      rw [same]
    rw [image, imageOfEntries_eq_map, kept, Entries.ofSettings_of_distinct apart.1]

theorem eq_map_of_parsed {limit filter canonical : Value} (given : filter ≠ .null)
    (parsed : parse registry limit filter = .ok canonical) : ∃ entries, filter = .map entries := by
  cases filter with
  | map entries => exact ⟨entries, rfl⟩
  | list items => cases parsed
  | atom leaf =>
    cases leaf with
    | null => exact absurd rfl given
    | _ => cases parsed

/-- Whichever way conditions are known to be kept, the result is the image of the filter. -/
theorem parse_nesting {filter canonical : Value} (given : filter ≠ .null)
    (parsed : parse registry (.int limit) filter = .ok canonical)
    (kept : registry.NamesFields ∧ filter.HasDistinctKeys ∨ (image registry [] filter).HasDistinctKeys) :
    canonical.nesting = filter.nesting := by
  have same : canonical = image registry [] filter := by
    rcases kept with ⟨plain, distinct⟩ | apart
    · obtain ⟨entries, rfl⟩ := eq_map_of_parsed given parsed
      exact (parse_map_ok plain distinct parsed).2
    · rcases (parse_ok parsed).1 with ⟨absent, -⟩ | rebuilt
      · exact absurd absent given
      · exact rebuilt_eq_image filter apart rebuilt
  rw [same, nesting_image]

/-! ## Whole filters -/

private theorem parse_of_larger {larger : Int} {filter canonical : Value} (wider : limit ≤ larger)
    (positive : 1 ≤ limit) (parsed : parse registry (.int limit) filter = .ok canonical) :
    parse registry (.int larger) filter = .ok canonical := by
  by_cases absent : filter = .null
  · subst absent
    exact parsed
  · obtain ⟨entries, rfl⟩ := eq_map_of_parsed absent parsed
    have fits := parse_nesting_le positive parsed
    have walked : canonicalNode registry (.int larger) 0 [] none (.map entries) =
        canonicalNode registry (.int limit) 0 [] none (.map entries) :=
      canonicalNode_of_nesting_le (.map entries) (by omega) (by omega)
    rw [parse, walked]
    rw [parse] at parsed
    exact parsed

/-- What a container at the limit or below it is replaced with does not change the outcome. A filter that
is parsed has no chain of containers longer than the limit, comes out under any larger limit as well, and
is not nested more deeply then; it is nested as deeply if its conditions are kept apart. -/
theorem parse_blind_below_limit (registry : Registry) (limit : Int) (positive : 1 ≤ limit)
    (filter : Value) :
    (∀ route part old, limit ≤ (route.length : Int) → filter.partAt? route = some old →
      old.isContainer = true → part.isContainer = true →
      parse registry (.int limit) (Value.replaceAt part route filter) =
        parse registry (.int limit) filter) ∧
    ∀ canonical, parse registry (.int limit) filter = .ok canonical →
      filter.nesting ≤ limit ∧
      (∀ larger, limit ≤ larger → parse registry (.int larger) filter = .ok canonical) ∧
      (filter ≠ .null → canonical.nesting ≤ filter.nesting ∧
        (registry.NamesFields ∧ filter.HasDistinctKeys ∨ (image registry [] filter).HasDistinctKeys →
          canonical.nesting = filter.nesting)) := by
  constructor
  · intro route part old deep found replaced container
    have unseen : (Value.replaceAt part route filter).cutAt route.length = filter.cutAt route.length :=
      Value.cutAt_replaceAt container replaced found (Nat.le_refl _)
    calc parse registry (.int limit) (Value.replaceAt part route filter)
      _ = parse registry (.int limit) ((Value.replaceAt part route filter).cutAt route.length) :=
        (parse_cutAt _ deep (by omega)).symm
      _ = parse registry (.int limit) (filter.cutAt route.length) := by rw [unseen]
      _ = parse registry (.int limit) filter := parse_cutAt filter deep (by omega)
  · intro canonical parsed
    refine ⟨parse_nesting_le positive parsed, fun larger wider => parse_of_larger wider positive parsed,
      fun given => ⟨?_, parse_nesting given parsed⟩⟩
    rcases (parse_ok parsed).1 with ⟨absent, -⟩ | rebuilt
    · exact absurd absent given
    · exact nesting_result_le filter rebuilt

/-- A map of foreign keys and of operators that are not allowed takes the place of a list at the limit; with
one level more the list is parsed, as it is with many more. -/
theorem parse_blind_below_limit_dates :
    let around (operand : Value) : Value :=
      .map [(.text "created", .map [(.text "$not", .map [(.text "$in", operand)])])]
    let sent := around (.list [.text "null"])
    let hostile := around (.map [(.int 1, .list [.list []]), (.text "$where", .map [])])
    let stored : Value :=
      .map [(.text "created_at", .map [(.text "$not", .map [(.text "$in", .list [.null])])])]
    parse Registry.ofFiles (.int 3) sent = parse Registry.ofFiles (.int 3) hostile ∧
      parse Registry.ofFiles (.int 3) hostile =
        reject (.tooDeep (.int 3)) [.key (.text "$in"), .key (.text "$not"), .key (.text "created_at")] ∧
      parse Registry.ofFiles (.int 4) sent = .ok stored ∧ sent.nesting ≤ 4 ∧
      parse Registry.ofFiles (.int 90) sent = .ok stored ∧
      sent.HasDistinctKeys ∧ stored.nesting = sent.nesting := by
  intro around sent hostile stored
  have distinct : sent.HasDistinctKeys := by
    simp [sent, around, Entries.Distinct, Entries.keys]
  have parsed : parse Registry.ofFiles (.int 4) sent = .ok stored :=
    parse_map_of_valid (by rfl) (by rfl) (by rfl)
  have unseen := (parse_blind_below_limit Registry.ofFiles 3 (by decide) sent).1 [0, 0, 0]
    (.map [(.int 1, .list [.list []]), (.text "$where", .map [])]) _ (by decide) rfl rfl rfl
  obtain ⟨fits, wider, kept⟩ :=
    (parse_blind_below_limit Registry.ofFiles 4 (by decide) sent).2 stored parsed
  have given : sent ≠ .null := by simp [sent, around]
  have same := (kept given).2 (.inl ⟨Registry.ofFiles_namesFields, distinct⟩)
  exact ⟨unseen.symm, rfl, parsed, Int.ofNat_le.mp fits, wider 90 (by decide), distinct, same⟩

/-- An operator overwrites a condition that was stored under its key: the other order of the entries is
rejected as a repeated condition. -/
theorem operator_overwrites_condition :
    let registry : Registry := ⟨"files", .text "_id", [⟨.text "a", .text "$and", .plain, .bool true⟩]⟩
    let condition : Atom × Value := (.text "a", .list [.list [.list []]])
    let operator : Atom × Value := (.text "$and", .list [])
    let filter : Value := .map [condition, operator]
    let stored : Value := .map [(.text "$and", .list [])]
    filter.HasDistinctKeys ∧ parse registry (.int 10) filter = .ok stored ∧
      filter.nesting = 4 ∧ stored.nesting = 2 ∧
      parse registry (.int 10) (.map [operator, condition]) =
        reject (.repeated "a" (.text "$and")) [] := by
  intro registry condition operator filter stored
  have distinct : filter.HasDistinctKeys := by
    simp [filter, condition, operator, Entries.Distinct, Entries.keys, Atom.sameKey_text]
  exact ⟨distinct, parse_map_of_valid (by rfl) (by rfl) (by rfl), by decide, by decide, rfl⟩

end QueryGate.Filter
