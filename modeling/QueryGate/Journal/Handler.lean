import QueryGate.Journal.Disk
import QueryGate.Journal.Layout
/-!
Files that lines are written into. A handler keeps its file open. Before a text that would make the file too large it
moves the file and its backups on and opens a new one, and what goes wrong on the way is the end of the text: it is
lost, and the handler goes on from where it stopped. A text that no file can hold is lost too.
-/

namespace QueryGate.Journal

structure Handler where
  file : Path
  threshold : Level
  layout : Layout
  maxBytes : Nat
  backupCount : Nat
deriving DecidableEq

/-- A handler with the file that it has open, which need not be at its place any more. -/
structure OpenHandler extends Handler where
  stream : Option Nat
deriving DecidableEq

structure Output where
  handler : OpenHandler
  disk : Disk

namespace Output

def reopen (output : Output) : Except Output Output :=
  match output.handler.stream with
  | some _ => .ok output
  | none => match output.disk.openFile output.handler.file with
    | .error _ => .error output
    | .ok (disk, id) => .ok ⟨{ output.handler with stream := some id }, disk⟩

def rollOver (output : Output) : Except Output Output :=
  let closed : OpenHandler := { output.handler with stream := none }
  match output.disk.rotate closed.file closed.backupCount with
  | (disk, .error _) => .error ⟨closed, disk⟩
  | (disk, .ok ()) => reopen ⟨closed, disk⟩

def size (output : Output) : Nat :=
  output.handler.stream.elim 0 fun id => (output.disk.content id).utf8ByteSize

def isDue (output : Output) (text : String) : Bool :=
  0 < output.handler.maxBytes && output.handler.maxBytes ≤ output.size + text.length

/-- Makes room for a text; a directory in the place of the file is left alone. -/
def makeRoom (output : Output) (text : String) : Except Output Output :=
  if output.disk.found? output.handler.file = some .directory then .ok output
  else do
    let output ← output.reopen
    if output.isDue text then output.rollOver else .ok output

/-- Writes a text into the file of a handler, unless the text or the file is none that can be written. The first
argument says which characters no file can hold. -/
def emit (isHalf : Char → Bool) (text : String) (output : Output) : Output :=
  match output.makeRoom text >>= reopen with
  | .error output => output
  | .ok output =>
    if text.toList.any isHalf then output
    else { output with
      disk := output.handler.stream.elim output.disk fun id => output.disk.append id text }

end Output

end QueryGate.Journal
