import QueryGate.Calendar.Moment
import QueryGate.Number.Double
/-!
The values a caller can send: atoms, lists and maps. Keys of a map are atoms, and the entries of a map
stay in the order in which their keys first came. Numbers are the same key whatever their type: one,
one point zero and true are one key.
-/

namespace QueryGate

open QueryGate.Calendar

inductive Atom where
  | null
  | bool (flag : Bool)
  | int (number : Int)
  | float (number : Double)
  | text (chars : String)
  | date (moment : Moment)
  | bytes (data : List UInt8)
deriving DecidableEq

inductive Value where
  | atom (leaf : Atom)
  | list (items : List Value)
  | map (entries : List (Atom × Value))

abbrev Entries := List (Atom × Value)

namespace Value

@[match_pattern] abbrev null : Value := .atom .null

@[match_pattern] abbrev bool (flag : Bool) : Value := .atom (.bool flag)

@[match_pattern] abbrev int (number : Int) : Value := .atom (.int number)

@[match_pattern] abbrev text (chars : String) : Value := .atom (.text chars)

@[match_pattern] abbrev date (moment : Moment) : Value := .atom (.date moment)

abbrev empty : Value := .map []

instance : Inhabited Value := ⟨null⟩

def isContainer : Value → Bool
  | .atom _ => false
  | .list _ | .map _ => true

end Value

namespace Atom

/-- Whether two keys are one: numbers agree by their value, moments by the instant, all else by
identity. What is no number agrees with nothing. -/
def sameKey : Atom → Atom → Bool
  | .text s, .text t => s == t
  | .null, .null => true
  | .bytes s, .bytes t => s == t
  | .date s, .date t => s.sameInstant t
  | .bool s, .bool t => s == t
  | .int s, .int t => s == t
  | .bool s, .int t | .int t, .bool s => t == if s then 1 else 0
  | .float s, .float t => s.numericallyEqual t
  | .float s, .int t | .int t, .float s => s.equalsInt t
  | .float s, .bool t | .bool t, .float s => s.equalsInt (if t then 1 else 0)
  | _, _ => false

/-- Atoms that count as not given: nothing, false, zero and the empty text. -/
def isVacant : Atom → Bool
  | .null => true
  | .bool flag => !flag
  | .int number => number == 0
  | .float number => number.isZero
  | .text chars => chars.isEmpty
  | .date _ => false
  | .bytes data => data.isEmpty

theorem sameKey_text (s t : String) : sameKey (.text s) (.text t) = (s == t) := rfl

end Atom

def Value.isVacant : Value → Bool
  | .atom leaf => leaf.isVacant
  | .list items => items.isEmpty
  | .map entries => entries.isEmpty

namespace Entries

variable {β : Type}

def get? (entries : List (Atom × β)) (key : Atom) : Option β :=
  (entries.find? fun entry => entry.1.sameKey key).map Prod.snd

def has (entries : List (Atom × β)) (key : Atom) : Bool :=
  entries.any fun entry => entry.1.sameKey key

/-- Sets a key: a new key goes to the end, a known one keeps its place and its spelling. -/
def set (key : Atom) (value : β) : List (Atom × β) → List (Atom × β)
  | [] => [(key, value)]
  | entry :: rest =>
    if entry.1.sameKey key then (entry.1, value) :: rest else entry :: set key value rest

def ofSettings (settings : List (Atom × β)) : List (Atom × β) :=
  settings.foldl (fun entries entry => set entry.1 entry.2 entries) []

def field? (entries : List (Atom × β)) (name : String) : Option β := get? entries (.text name)

def keys (entries : List (Atom × β)) : List Atom := entries.map Prod.fst

theorem keys_set_of_has {entries : List (Atom × β)} {key : Atom} (present : has entries key = true)
    (value : β) : keys (set key value entries) = keys entries := by
  induction entries with
  | nil => simp [has] at present
  | cons entry rest ih =>
    by_cases same : entry.1.sameKey key = true
    · simp [set, keys, same]
    · have later : has rest key = true := by simpa [has, same] using present
      have tail := ih later
      simp only [keys] at tail
      simp [set, keys, same, tail]

theorem set_of_not_has {entries : List (Atom × β)} {key : Atom} (absent : has entries key = false)
    (value : β) : set key value entries = entries ++ [(key, value)] := by
  induction entries with
  | nil => rfl
  | cons entry rest ih =>
    simp only [has, List.any_cons, Bool.or_eq_false_iff] at absent
    simp [set, absent.1, ih absent.2]

end Entries

end QueryGate
