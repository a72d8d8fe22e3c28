/-!
What a name of a file or directory may be.
-/

namespace QueryGate.FileName

def limit : Nat := 255

def isLong (name : String) : Bool := limit < name.utf8ByteSize

def hasNull (name : String) : Bool := name.toList.contains (Char.ofNat 0)

end QueryGate.FileName
