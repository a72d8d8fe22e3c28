import QueryGate.Value.Display
/-!
Places inside a filter. A trail is the way from a node up to the root: the keys and positions passed,
the innermost first. Its label joins keys with dots and puts positions in brackets.
-/

namespace QueryGate.Filter

inductive Step where
  | key (name : Atom)
  | index (position : Nat)
deriving DecidableEq

abbrev Trail := List Step

/-- Appends a key to a label. An empty label adds no dot, so a key alone stays what it is. -/
def joinKey? (label key : Atom) : Option Atom :=
  if label.isVacant then some key
  else do
    let before ← label.plain?
    let name ← key.plain?
    some (.text (before ++ "." ++ name))

def Trail.label? : Trail → Option Atom
  | [] => some (.text "")
  | .key name :: outer => do
    let label ← label? outer
    joinKey? label name
  | .index position :: outer => do
    let label ← label? outer
    let before ← label.plain?
    some (.text (before ++ "[" ++ toString position ++ "]"))

def rootLabel : String := "<root>"

def shownLabel (label : Atom) : Atom := if label.isVacant then .text rootLabel else label

def Trail.shown? (trail : Trail) : Option Atom := trail.label?.map shownLabel

end QueryGate.Filter
