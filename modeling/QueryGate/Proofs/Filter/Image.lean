import Mathlib.Data.List.Forall2
import QueryGate.Filter.Canonical
import QueryGate.Proofs.Value.Tree
/-!
What a filter is to become, said without any walk that can fail. Names of properties turn into canonical
names, operators stay, and a leaf that is compared with a date turns into a moment; nothing is added, taken
away or moved. Whether a leaf is compared with a date is seen from the keys around it: the innermost one
that is the name of a property, or an operator whose operand is no value of a property, decides.
-/

namespace QueryGate.Filter

/-! ## Keys around a leaf -/

def valuelessKeys : List String := ["$exists", "$size", "$type", "$regex", "$options"]

def decidesReading : Atom → Bool
  | .text name => !isOperatorKey name || valuelessKeys.contains name
  | _ => false

def dateName? (registry : Registry) : Atom → Option String
  | .text name =>
    if isOperatorKey name then none
    else ((registry.resolve name).filter Property.isDate).map fun _ => name
  | _ => none

/-- The date property that leaves are compared with, by the keys around them, the innermost first. -/
def comparedDate? (registry : Registry) (keys : List Atom) : Option String :=
  (keys.find? decidesReading).bind (dateName? registry)

private theorem decidesReading_key (operator : Operator) :
    decidesReading (.text operator.key) = operator.ignoresValue := by
  cases operator <;> decide

theorem comparedDate?_operator (registry : Registry) (operator : Operator) (keys : List Atom) :
    comparedDate? registry (.text operator.key :: keys) =
      dateBelow operator (comparedDate? registry keys) := by
  rw [comparedDate?, List.find?_cons, decidesReading_key, dateBelow]
  cases operator.ignoresValue with
  | false => rfl
  | true => simp [dateName?, isOperatorKey_key]

theorem comparedDate?_property {registry : Registry} {name : String} {property : Property}
    (bare : isOperatorKey name = false) (found : registry.resolve name = some property)
    (keys : List Atom) :
    comparedDate? registry (.text name :: keys) = if property.isDate then some name else none := by
  have decides : decidesReading (.text name) = true := by simp [decidesReading, bare]
  rw [comparedDate?, List.find?_cons, decides]
  cases date : property.isDate <;> simp [dateName?, bare, found, Option.filter, date]

/-! ## Images -/

def storedKey (registry : Registry) : Atom → Atom
  | .text name =>
    if isOperatorKey name then .text name
    else ((registry.resolve name).map Property.canonicalName).getD (.text name)
  | key => key

def storedLeaf (registry : Registry) (keys : List Atom) (leaf : Atom) : Value :=
  match comparedDate? registry keys, (Value.atom leaf).toMoment? with
  | some _, .ok moment => Value.ofMoment? moment
  | _, _ => .atom leaf

mutual

/-- What a value below some keys is stored as. -/
def image (registry : Registry) (keys : List Atom) : Value → Value
  | .atom leaf => storedLeaf registry keys leaf
  | .list items => .list (imageOfItems registry keys items)
  | .map entries => .map (imageOfEntries registry keys entries)

def imageOfItems (registry : Registry) (keys : List Atom) : List Value → List Value
  | [] => []
  | item :: items => image registry keys item :: imageOfItems registry keys items

def imageOfEntries (registry : Registry) (keys : List Atom) :
    List (Atom × Value) → List (Atom × Value)
  | [] => []
  | (key, item) :: entries =>
    (storedKey registry key, image registry (key :: keys) item) :: imageOfEntries registry keys entries

end

variable {registry : Registry} {keys : List Atom}

@[simp]
theorem imageOfItems_eq_map (items : List Value) :
    imageOfItems registry keys items = items.map (image registry keys) := by
  induction items with
  | nil => rfl
  | cons item items ih => rw [imageOfItems, ih, List.map_cons]

@[simp]
theorem imageOfEntries_eq_map (entries : List (Atom × Value)) :
    imageOfEntries registry keys entries =
      entries.map fun entry => (storedKey registry entry.1, image registry (entry.1 :: keys) entry.2) := by
  induction entries with
  | nil => rfl
  | cons entry entries ih => rw [imageOfEntries, ih, List.map_cons]

theorem keys_imageOfEntries (entries : List (Atom × Value)) :
    Entries.keys (imageOfEntries registry keys entries) =
      (Entries.keys entries).map (storedKey registry) := by
  simp [Entries.keys]

/-! ## Shapes -/

/-- Lists of equally many items and maps of equally many entries, each with the shape of its partner in
the same place. -/
inductive SameShape : Value → Value → Prop
  | atom (first second : Atom) : SameShape (.atom first) (.atom second)
  | list {items others : List Value} (pairs : List.Forall₂ SameShape items others) :
      SameShape (.list items) (.list others)
  | map {entries others : Entries}
      (pairs : List.Forall₂ (fun entry other => SameShape entry.2 other.2) entries others) :
      SameShape (.map entries) (.map others)

theorem storedLeaf_eq_atom (leaf : Atom) : ∃ stored, storedLeaf registry keys leaf = .atom stored := by
  unfold storedLeaf
  split
  next moment _ _ =>
    cases moment with
    | none => exact ⟨.null, rfl⟩
    | some moment => exact ⟨.date moment, rfl⟩
  next => exact ⟨leaf, rfl⟩

theorem sameShape_image (value : Value) (keys : List Atom) :
    SameShape value (image registry keys value) := by
  induction value using Value.treeInduction generalizing keys with
  | atom leaf =>
    obtain ⟨stored, same⟩ : ∃ stored, storedLeaf registry keys leaf = .atom stored :=
      storedLeaf_eq_atom leaf
    rw [image, same]
    exact .atom leaf stored
  | list items ih =>
    rw [image, imageOfItems_eq_map]
    apply SameShape.list
    rw [List.forall₂_map_right_iff, List.forall₂_same]
    exact fun item member => ih item member keys
  | map entries ih =>
    rw [image, imageOfEntries_eq_map]
    apply SameShape.map
    rw [List.forall₂_map_right_iff, List.forall₂_same]
    exact fun entry member => ih entry member (entry.1 :: keys)

end QueryGate.Filter
