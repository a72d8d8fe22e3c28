import QueryGate.Filter.Findings
import QueryGate.Proofs.Filter.Image
import QueryGate.Proofs.Registry.Names
/-!
Where a filter goes against the rules. A filter is visited depth first, in the order of keys and items,
whatever it holds: a container before anything in it, a key before the value below it. Each visit is judged
on its own, from its place and from the keys before it in the same map, and may be a violation.
-/

namespace QueryGate.Filter

/-! ## Visits -/

/-- A stop on the way through a filter. Places are in the words of the caller. -/
inductive Visit where
  | container (place : Trail)
  | key (place : Trail) (earlier : List Atom) (key : Atom)
  | leaf (place : Trail) (leaf : Atom)

mutual

def visitsAt (place : Trail) : Value → List Visit
  | .atom leaf => [.leaf place leaf]
  | .list items => .container place :: visitsOfItems place 0 items
  | .map entries => .container place :: visitsOfEntries place [] entries

def visitsOfItems (place : Trail) (index : Nat) : List Value → List Visit
  | [] => []
  | item :: items => visitsAt (.index index :: place) item ++ visitsOfItems place (index + 1) items

def visitsOfEntries (place : Trail) (earlier : List Atom) : List (Atom × Value) → List Visit
  | [] => []
  | (key, item) :: entries =>
    .key place earlier key :: (visitsAt (.key key :: place) item ++
      visitsOfEntries place (earlier ++ [key]) entries)

end

def visits (filter : Value) : List Visit := visitsAt [] filter

theorem mem_visitsOfItems {place : Trail} {index : Nat} {items : List Value} {visit : Visit}
    (visited : visit ∈ visitsOfItems place index items) :
    ∃ item ∈ items, ∃ index, visit ∈ visitsAt (.index index :: place) item := by
  induction items generalizing index with
  | nil => cases visited
  | cons item items ih =>
    rw [visitsOfItems] at visited
    rcases List.mem_append.mp visited with here | later
    · exact ⟨item, List.mem_cons_self .., index, here⟩
    · obtain ⟨other, member, below⟩ := ih later
      exact ⟨other, List.mem_cons_of_mem _ member, below⟩

theorem mem_visitsOfEntries {place : Trail} {earlier : List Atom} {entries : Entries} {visit : Visit}
    (visited : visit ∈ visitsOfEntries place earlier entries) :
    ∃ entry ∈ entries, (∃ before, visit = .key place before entry.1) ∨
      visit ∈ visitsAt (.key entry.1 :: place) entry.2 := by
  induction entries generalizing earlier with
  | nil => cases visited
  | cons entry entries ih =>
    rcases entry with ⟨key, item⟩
    rw [visitsOfEntries] at visited
    rcases List.mem_cons.mp visited with same | rest
    · exact ⟨_, List.mem_cons_self .., .inl ⟨earlier, same⟩⟩
    · rcases List.mem_append.mp rest with here | later
      · exact ⟨_, List.mem_cons_self .., .inr here⟩
      · obtain ⟨other, member, below⟩ := ih later
        exact ⟨other, List.mem_cons_of_mem _ member, below⟩

theorem mem_everyKey_of_visit {start place : Trail} {earlier : List Atom} {key : Atom} {value : Value}
    (visited : .key place earlier key ∈ visitsAt start value) : key ∈ value.everyKey := by
  induction value using Value.treeInduction generalizing start with
  | atom leaf =>
    rw [visitsAt] at visited
    cases List.mem_singleton.mp visited
  | list items ih =>
    rw [visitsAt] at visited
    obtain ⟨item, member, _, below⟩ :=
      mem_visitsOfItems ((List.mem_cons.mp visited).resolve_left nofun)
    exact Value.mem_everyKey_list.mpr ⟨item, member, ih item member below⟩
  | map entries ih =>
    rw [visitsAt] at visited
    obtain ⟨entry, member, ⟨_, here⟩ | below⟩ :=
      mem_visitsOfEntries ((List.mem_cons.mp visited).resolve_left nofun)
    · injection here with _ _ same
      exact Value.mem_everyKey_map.mpr ⟨entry, member, .inl same⟩
    · exact Value.mem_everyKey_map.mpr ⟨entry, member, .inr (ih entry member below)⟩

def Visit.place : Visit → Trail
  | .container place | .key place _ _ | .leaf place _ => place

/-- The keys around a visit are those around where the walk starts and keys of the value. -/
theorem mem_everyKey_of_place {start : Trail} {visit : Visit} {value : Value}
    (visited : visit ∈ visitsAt start value) {key : Atom} (passed : .key key ∈ visit.place) :
    .key key ∈ start ∨ key ∈ value.everyKey := by
  induction value using Value.treeInduction generalizing start with
  | atom leaf =>
    rw [visitsAt] at visited
    obtain rfl := List.mem_singleton.mp visited
    exact .inl passed
  | list items ih =>
    rw [visitsAt] at visited
    rcases List.mem_cons.mp visited with rfl | rest
    · exact .inl passed
    · obtain ⟨item, member, _, below⟩ := mem_visitsOfItems rest
      rcases ih item member below with first | inside
      · exact .inl ((List.mem_cons.mp first).resolve_left nofun)
      · exact .inr (Value.mem_everyKey_list.mpr ⟨item, member, inside⟩)
  | map entries ih =>
    rw [visitsAt] at visited
    rcases List.mem_cons.mp visited with rfl | rest
    · exact .inl passed
    · obtain ⟨entry, member, ⟨_, rfl⟩ | below⟩ := mem_visitsOfEntries rest
      · exact .inl passed
      · rcases ih entry member below with first | inside
        · rcases List.mem_cons.mp first with same | outer
          · exact .inr (Value.mem_everyKey_map.mpr ⟨entry, member, .inl (Step.key.inj same)⟩)
          · exact .inl outer
        · exact .inr (Value.mem_everyKey_map.mpr ⟨entry, member, .inr inside⟩)

/-! ## Places -/

def Step.key? : Step → Option Atom
  | .key name => some name
  | .index _ => none

def Trail.keys (place : Trail) : List Atom := place.filterMap Step.key?

def storedStep (registry : Registry) : Step → Step
  | .key name => .key (storedKey registry name)
  | .index position => .index position

def storedPlace (registry : Registry) (place : Trail) : Trail := place.map (storedStep registry)

/-! ## Violations -/

def keyViolation? (registry : Registry) (place : Trail) (taken : List Atom) : Atom → Option Rejection
  | .text name =>
    if isOperatorKey name then
      if name ∈ Operator.allowed.map Operator.key then none
      else some (.disallowedOperator name)
    else match registry.resolveFilterable name with
      | none => some (.unknownProperty name)
      | some property =>
        if property.canonicalName ∈ taken then
          some (.flaw (.repeated name property.canonicalName) place)
        else none
  | key => some (.foreignKey key)

def leafViolation? (date : Option String) (place : Trail) (leaf : Atom) : Option Rejection :=
  match date, (Value.atom leaf).toMoment? with
  | some name, .error cause => some (.flaw (.date name cause) place)
  | _, _ => none

/-- What is wrong at a visit. As many containers lie above a place as it has steps. -/
def violation? (registry : Registry) (limit : Value) : Visit → Option Rejection
  | .container place => depthViolation? limit place.length (storedPlace registry place)
  | .key place earlier key =>
    keyViolation? registry (storedPlace registry place) (earlier.map (storedKey registry)) key
  | .leaf place leaf =>
    leafViolation? (comparedDate? registry place.keys) (storedPlace registry place) leaf

def firstViolation? (registry : Registry) (limit : Value) (visits : List Visit) : Option Rejection :=
  visits.findSome? (violation? registry limit)

variable {registry : Registry} {limit : Value}

theorem firstViolation?_cons (visit : Visit) (visits : List Visit) :
    firstViolation? registry limit (visit :: visits) =
      (violation? registry limit visit).or (firstViolation? registry limit visits) := by
  rw [firstViolation?, List.findSome?_cons]
  cases violation? registry limit visit <;> rfl

theorem firstViolation?_append (visits others : List Visit) :
    firstViolation? registry limit (visits ++ others) =
      (firstViolation? registry limit visits).or (firstViolation? registry limit others) :=
  List.findSome?_append

theorem firstViolation?_eq_none_iff {visits : List Visit} :
    firstViolation? registry limit visits = none ↔
      ∀ visit ∈ visits, violation? registry limit visit = none :=
  List.findSome?_eq_none_iff

theorem exists_key_visit (place : Trail) (earlier : List Atom) {entries : Entries} {entry : Atom × Value}
    (member : entry ∈ entries) :
    ∃ before, earlier ⊆ before ∧ .key place before entry.1 ∈ visitsOfEntries place earlier entries := by
  induction entries generalizing earlier with
  | nil => cases member
  | cons first entries ih =>
    rcases first with ⟨key, item⟩
    rw [visitsOfEntries]
    rcases List.mem_cons.mp member with rfl | later
    · exact ⟨earlier, List.Subset.refl _, List.mem_cons_self ..⟩
    · obtain ⟨before, included, visited⟩ := ih (earlier ++ [key]) later
      refine ⟨before, fun known inside => included (List.mem_append_left _ inside), ?_⟩
      exact List.mem_cons_of_mem _ (List.mem_append_right _ visited)

/-! ## Keys without a violation -/

theorem ofKey?_eq_none_iff {name : String} :
    Operator.ofKey? name = none ↔ name ∉ Operator.allowed.map Operator.key := by
  simp [Operator.ofKey?]

/-- A key that is no violation is an allowed operator, which is stored as it is, or the name of an exposed
property, which is stored under a canonical name that is new. -/
theorem keyViolation?_eq_none {place : Trail} {taken : List Atom} {key : Atom}
    (allowed : keyViolation? registry place taken key = none) :
    (∃ operator : Operator, key = .text operator.key ∧ storedKey registry key = key) ∨
      ∃ name property, key = .text name ∧ isOperatorKey name = false ∧
        registry.resolveFilterable name = some property ∧
        storedKey registry key = property.canonicalName ∧ property.canonicalName ∉ taken := by
  cases key with
  | text name =>
    rw [keyViolation?] at allowed
    by_cases sigilled : isOperatorKey name = true
    · rw [if_pos sigilled] at allowed
      split at allowed
      next known =>
        obtain ⟨operator, -, rfl⟩ := List.mem_map.mp known
        exact .inl ⟨operator, rfl, by rw [storedKey, if_pos sigilled]⟩
      next => cases allowed
    · rw [if_neg sigilled] at allowed
      split at allowed
      next => cases allowed
      next property found =>
        split at allowed
        next => cases allowed
        next fresh =>
          have resolved := (Registry.resolveFilterable_eq_some.mp found).1
          refine .inr ⟨name, property, rfl, by simpa using sigilled, found, ?_, fresh⟩
          rw [storedKey, if_neg sigilled, resolved]
          rfl
  | _ => cases allowed

end QueryGate.Filter
