import QueryGate.Json.Reader
import QueryGate.Value.Display
import QueryGate.Text.Blank
/-!
Filters as they come over the wire: JSON objects in a text, or in the bytes of one. A blank text, or
none, is the filter without conditions; bytes must hold an object. Whatever else there is, a refusal
says what is wrong with it, unless it is nothing that could be decoded at all.
-/

namespace QueryGate.Query

inductive DecodeError where
  | nonFinite (name : String)
  | malformed (message : String)
  | tooDeep
  | noObject (typeName : String)
  | tooManyDigits (count : Nat)
  | undecodable
  | foreign (raw : Value)

/-- The message of a refused filter. Bytes that spell no text and values of other types are refused
without words. -/
def DecodeError.message : DecodeError → String
  | .nonFinite name => "Filter contains non-finite number " ++ name
  | .malformed message => "Filter is not valid JSON: " ++ message
  | .tooDeep => "Filter is nested too deeply"
  | .noObject typeName => "Filter must be a JSON object, got " ++ typeName
  | .tooManyDigits count => Number.overlongMessage count
  | .undecodable | .foreign _ => ""

def DecodeError.ofReadError (chars : List Char) : Json.ReadError → DecodeError
  | .malformed fault place => .malformed (Json.faultMessage chars fault place)
  | .nonFinite name => .nonFinite name
  | .tooDeep => .tooDeep
  | .tooManyDigits count => .tooManyDigits count

def objectOf (chars : List Char) : Except Json.ReadError Value → Except DecodeError Value
  | .error problem => .error (DecodeError.ofReadError chars problem)
  | .ok (.map entries) => .ok (.map entries)
  | .ok value => .error (.noObject value.typeName)

def decodeText (decoder : Json.Decoder) (text : String) : Except DecodeError Value :=
  if Text.isBlankText text then .ok .empty else objectOf text.toList (decoder.read text)

def decodeBytes (decoder : Json.Decoder) (data : List UInt8) : Except DecodeError Value :=
  match Text.decodeBytes? decoder.standIn data with
  | none => .error .undecodable
  | some chars => objectOf chars (decoder.readChars chars)

def decodeFilter (decoder : Json.Decoder) : Value → Except DecodeError Value
  | .null => .ok .empty
  | .text chars => decodeText decoder chars
  | .atom (.bytes data) => decodeBytes decoder data
  | raw => .error (.foreign raw)

end QueryGate.Query
