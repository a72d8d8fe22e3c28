/-!
What can be wrong with a YAML document.
-/

namespace QueryGate.Yaml

/-- Why bytes hold no document. They spell no text, or the text is malformed; or it is more than its reader can
take: it is nested too deeply, a whole number in it has too many digits, or an escape in it names no character,
the second time by a code that is not even a machine's number. -/
inductive Fault where
  | undecodable
  | malformed
  | tooDeep
  | overlong (digits : Nat)
  | noCharacter
  | hugeCode
deriving DecidableEq, Repr

end QueryGate.Yaml
