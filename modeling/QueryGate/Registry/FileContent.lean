import QueryGate.FileName
/-!
What is found under a path when the work directory holds a single file. Paths are followed name by name; of
what lies outside the work directory only the directories above it are known.
-/

namespace QueryGate

inductive FileContent where
  | missing
  | directory
  | notDirectory
  | longName
  | nullInPath
  | bytes (data : List UInt8)

inductive Spot where
  | work
  | around
  | file
deriving DecidableEq

namespace FileContent

def pathLimit : Nat := 4095

def follow (fileName : String) (data : List UInt8) : Spot → List String → FileContent
  | .file, [] => .bytes data
  | .file, _ :: _ => .notDirectory
  | _, [] => .directory
  | spot, name :: names =>
    if name.isEmpty || name == "." then follow fileName data spot names
    else if name == ".." then follow fileName data .around names
    else if FileName.isLong name then .longName
    else if spot = .work && name == fileName then follow fileName data .file names
    else .missing

def ofPath (fileName : String) (file : Option (List UInt8)) (path : String) : FileContent :=
  if FileName.hasNull path then .nullInPath
  else if path.isEmpty then .missing
  else if pathLimit < path.utf8ByteSize then .longName
  else
    let start : Spot := if path.startsWith "/" then .around else .work
    match file with
    | some data => follow fileName data start (path.splitOn "/")
    | none => follow "" [] start (path.splitOn "/")

end FileContent

end QueryGate
