import QueryGate.Value.Basic
/-!
Which values are equal, which can be compared, and how. Numbers compare by size whatever their type,
texts by code points, bytes by their numbers, and moments by the instant if all of them or none have an
offset; nothing else can be ordered. What is no number is neither below, above nor equal to anything, so
a sort that meets it shows the order in which it compares: here the leading run comes first, and every
further item is put in its place by halving.
-/

namespace QueryGate

namespace Atom

/-- Whether an atom is at most a whole number; only numbers and truth values can be asked. -/
def atMost? (leaf : Atom) (bound : Int) : Option Bool :=
  match leaf with
  | .bool flag => some (decide ((if flag then 1 else 0 : Int) ≤ bound))
  | .int number => some (decide (number ≤ bound))
  | .float number => some (number.atMostInt bound)
  | _ => none

def above? (leaf : Atom) (bound : Int) : Option Bool :=
  match leaf with
  | .bool flag => some (decide (bound < (if flag then 1 else 0 : Int)))
  | .int number => some (decide (bound < number))
  | .float number => some (number.aboveInt bound)
  | _ => none

theorem atMost?_int (number bound : Int) : atMost? (.int number) bound = some (decide (number ≤ bound)) :=
  rfl

def whole? : Atom → Option Int
  | .bool flag => some (if flag then 1 else 0)
  | .int number => some number
  | _ => none

def numberBelow? (first second : Atom) : Option Bool :=
  match first, second with
  | .float d, .float e => some (d.isBelow e)
  | .float d, other => (whole? other).map fun n => d.atMostInt n && !d.equalsInt n
  | other, .float e => (whole? other).map fun n => e.aboveInt n
  | first, second => do
    let n ← whole? first
    let m ← whole? second
    some (decide (n < m))

def below? : Atom → Atom → Option Bool
  | .text s, .text t => some (decide (s < t))
  | .bytes s, .bytes t => some (decide (s < t))
  | .date s, .date t => if s.isAware == t.isAware then some (decide (s.instant < t.instant)) else none
  | first, second => numberBelow? first second

end Atom

namespace Value

mutual

/-- Whether two values are equal: atoms as keys are, lists item by item, and maps entry by entry in
whatever order. -/
def same : Value → Value → Bool
  | .atom s, .atom t => s.sameKey t
  | .list items, .list others => sameItems items others
  | .map entries, .map others => entries.length == others.length && sameEntries entries others
  | _, _ => false

def sameItems : List Value → List Value → Bool
  | [], [] => true
  | item :: items, other :: others => same item other && sameItems items others
  | _, _ => false

def sameEntries : List (Atom × Value) → List (Atom × Value) → Bool
  | [], _ => true
  | (key, value) :: entries, others =>
    (match Entries.get? others key with
      | some other => same value other
      | none => false) && sameEntries entries others

end

def atMost? (value : Value) (bound : Int) : Option Bool :=
  match value with
  | .atom leaf => leaf.atMost? bound
  | _ => none

def above? (value : Value) (bound : Int) : Option Bool :=
  match value with
  | .atom leaf => leaf.above? bound
  | _ => none

end Value

/-! ## Sorting -/

/-- The place of an item between two places of a sorted list: behind all items that are not above it.
It is looked for by halving. -/
def placeByHalves {α : Type} (below : α → α → Bool) (item : α) (sorted : List α) (low high : Nat) :
    Nat :=
  if low < high then
    let middle := (low + high) / 2
    match sorted[middle]? with
    | none => high
    | some other =>
      if below item other then placeByHalves below item sorted low middle
      else placeByHalves below item sorted (middle + 1) high
  else low
termination_by high - low

def insertByHalves {α : Type} (below : α → α → Bool) (sorted : List α) (item : α) : List α :=
  let place := placeByHalves below item sorted 0 sorted.length
  sorted.take place ++ item :: sorted.drop place

def fallingRun {α : Type} (below : α → α → Bool) (before : α) : List α → List α × List α
  | [] => ([], [])
  | item :: rest =>
    if below item before then
      let (run, others) := fallingRun below item rest
      (item :: run, others)
    else ([], item :: rest)

def risingRun {α : Type} (below : α → α → Bool) (before : α) : List α → List α × List α
  | [] => ([], [])
  | item :: rest =>
    if below item before then ([], item :: rest)
    else
      let (run, others) := risingRun below item rest
      (item :: run, others)

def leadingRun {α : Type} (below : α → α → Bool) : List α → List α × List α
  | [] => ([], [])
  | [item] => ([item], [])
  | first :: second :: rest =>
    if below second first then
      let (run, others) := fallingRun below second rest
      (run.reverse ++ [second, first], others)
    else
      let (run, others) := risingRun below second rest
      (first :: second :: run, others)

def sortByHalves {α : Type} (below : α → α → Bool) (items : List α) : List α :=
  let (run, others) := leadingRun below items
  others.foldl (insertByHalves below) run

def comparable (atoms : List Atom) : Bool :=
  atoms.length ≤ 1 || atoms.all fun s => atoms.all fun t => (s.below? t).isSome

def sortAtoms? (atoms : List Atom) : Option (List Atom) :=
  if comparable atoms then some (sortByHalves (fun s t => (s.below? t).getD false) atoms) else none

end QueryGate
