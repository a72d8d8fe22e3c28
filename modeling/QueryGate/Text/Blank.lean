import QueryGate.Text.Span
/-!
White space. A character is blank if it is one of the separators of the Unicode character database or
one of the control characters that break or advance a line; stripping a text removes the blank
characters at both of its ends.
-/

namespace QueryGate.Text

def blankSpans : List Span := [
  (0x9, 0xd), (0x1c, 0x20), (0x85, 0x85), (0xa0, 0xa0), (0x1680, 0x1680), (0x2000, 0x200a),
  (0x2028, 0x2029), (0x202f, 0x202f), (0x205f, 0x205f), (0x3000, 0x3000)]

def isBlank (c : Char) : Bool := inSpans blankSpans c.toNat

def stripStart (chars : List Char) : List Char := chars.dropWhile isBlank

def stripChars (chars : List Char) : List Char :=
  (stripStart (stripStart chars).reverse).reverse

theorem stripStart_eq_self {chars : List Char} (bare : ∀ c ∈ chars.head?, isBlank c = false) :
    stripStart chars = chars := by
  cases chars with
  | nil => rfl
  | cons c rest => rw [stripStart, List.dropWhile_cons, bare c rfl, if_neg Bool.false_ne_true]

/-- Characters without a blank at either end are left as they are. -/
theorem stripChars_eq_self {chars : List Char} (first : ∀ c ∈ chars.head?, isBlank c = false)
    (last : ∀ c ∈ chars.getLast?, isBlank c = false) : stripChars chars = chars := by
  rw [stripChars, stripStart_eq_self first, stripStart_eq_self, List.reverse_reverse]
  rwa [List.head?_reverse]

def isBlankText (text : String) : Bool := text.toList.all isBlank

end QueryGate.Text
