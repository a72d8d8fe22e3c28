/-!
Sets of characters given as spans of code points. A span holds both of its ends; the sets of this
folder are short lists of spans in increasing order.
-/

namespace QueryGate.Text

abbrev Span := Nat × Nat

def inSpans (spans : List Span) (code : Nat) : Bool :=
  spans.any fun span => span.1 ≤ code && code ≤ span.2

theorem inSpans_iff {spans : List Span} {code : Nat} :
    inSpans spans code = true ↔ ∃ span ∈ spans, span.1 ≤ code ∧ code ≤ span.2 := by
  simp [inSpans]

end QueryGate.Text
