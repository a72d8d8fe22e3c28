/-!
Line ends. A line may end in a line feed, in a carriage return, or in both one after the other.
-/

namespace QueryGate.Text

def unifyBreaks : List Char → List Char
  | [] => []
  | '\r' :: '\n' :: rest => '\n' :: unifyBreaks rest
  | '\r' :: rest => '\n' :: unifyBreaks rest
  | c :: rest => c :: unifyBreaks rest

end QueryGate.Text
