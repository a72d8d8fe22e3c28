import QueryGate.FileName
import QueryGate.Journal.Path
/-!
The disk that a journal writes to. Files have numbers, and what a file holds is told by its number, so that a file
that is open stays the same file wherever it is moved to. A path is followed name by name, so that two dots lead up
from a directory that must be there; a file that is opened is given by its place. What fails leaves behind what was
made before.
-/

namespace QueryGate.Journal

inductive DiskEntry where
  | directory
  | file (id : Nat)
deriving DecidableEq

def DiskEntry.id? : DiskEntry → Option Nat
  | .directory => none
  | .file id => some id

def fileIds (entries : List (Path × DiskEntry)) : List Nat := entries.filterMap fun entry => entry.2.id?

theorem fileIds_directories (places : List Path) :
    fileIds (places.map fun place => (place, .directory)) = [] := by
  rw [fileIds, List.filterMap_eq_nil_iff]
  intro entry member
  obtain ⟨place, -, rfl⟩ := List.mem_map.mp member
  rfl

/-- Why the disk cannot do what is asked: nothing is there, a file stands where a directory should be
made or where one is needed, a directory stands where a file is needed, or a name cannot be that of
anything. -/
inductive DiskError where
  | missing
  | occupied
  | notDirectory
  | isDirectory
  | longName
  | nullCharacter
deriving DecidableEq, Repr

/-- What there is at places, and what files hold by their numbers. No file is at two places. -/
structure Disk where
  entries : List (Path × DiskEntry)
  contents : List String
  known : ∀ id ∈ fileIds entries, id < contents.length
  apart : (fileIds entries).Nodup

namespace Disk

def ofDirectories (places : List Path) : Disk where
  entries := places.map fun place => (place, .directory)
  contents := []
  known := by simp [fileIds_directories]
  apart := by simp [fileIds_directories]

def found? (disk : Disk) (place : Path) : Option DiskEntry :=
  if place.isEmpty then some .directory
  else (disk.entries.find? fun entry => entry.1 == place).map Prod.snd

def content (disk : Disk) (id : Nat) : String := (disk.contents[id]?).getD ""

/-! ## Changes -/

def addDirectory (disk : Disk) (place : Path) : Disk where
  entries := disk.entries ++ [(place, .directory)]
  contents := disk.contents
  known := by simpa [fileIds, DiskEntry.id?] using disk.known
  apart := by simpa [fileIds, DiskEntry.id?] using disk.apart

def addFile (disk : Disk) (place : Path) : Disk where
  entries := disk.entries ++ [(place, .file disk.contents.length)]
  contents := disk.contents ++ [""]
  known := by
    intro id member
    simp only [fileIds, List.filterMap_append, List.mem_append] at member
    rcases member with before | last
    · exact Nat.lt_of_lt_of_le (disk.known id before) (by simp)
    · simp_all [DiskEntry.id?]
  apart := by
    have fresh : disk.contents.length ∉ fileIds disk.entries := fun member => Nat.lt_irrefl _ (disk.known _ member)
    simp only [fileIds, List.filterMap_append]
    refine List.nodup_append.mpr ⟨disk.apart, by simp [DiskEntry.id?], ?_⟩
    intro id before last member same
    subst same
    simp only [DiskEntry.id?, List.filterMap_cons, List.filterMap_nil, List.mem_singleton] at member
    exact fresh (member ▸ before)

def append (disk : Disk) (id : Nat) (text : String) : Disk where
  entries := disk.entries
  contents := disk.contents.modify id (· ++ text)
  known := by simpa using disk.known
  apart := disk.apart

/-- Takes away what is at a place. A file that is open stays open. -/
def remove (disk : Disk) (place : Path) : Disk where
  entries := disk.entries.filter fun entry => entry.1 != place
  contents := disk.contents
  known := fun id member => disk.known id ((List.filter_sublist.filterMap _).mem member)
  apart := disk.apart.sublist (List.filter_sublist.filterMap _)

def moved (source target place : Path) : Path :=
  if source.isPrefixOf place then target ++ place.drop source.length else place

def move (disk : Disk) (source target : Path) : Disk where
  entries := disk.entries.map fun entry => (moved source target entry.1, entry.2)
  contents := disk.contents
  known := by simpa [fileIds, List.filterMap_map, Function.comp_def] using disk.known
  apart := by simpa [fileIds, List.filterMap_map, Function.comp_def] using disk.apart

/-! ## Directories -/

def find (disk : Disk) (place : Path) (name : String) : Except DiskError DiskEntry :=
  if FileName.isLong name then .error .longName
  else match disk.found? (place ++ [name]) with
    | some entry => .ok entry
    | none => .error .missing

/-- Walks on from a place; every name on the way must be that of a directory. -/
def walk (disk : Disk) (place : Path) : List String → Except DiskError Path
  | [] => .ok place
  | name :: names =>
    if name == ".." then disk.walk (above place) names
    else match disk.find place name with
      | .ok .directory => disk.walk (place ++ [name]) names
      | .ok (.file _) => .error .notDirectory
      | .error problem => .error problem

def makeLast (disk : Disk) (start : Path) (names : List String) (last : String) :
    Except DiskError Disk := do
  let place ← disk.walk start names
  if last == ".." then .ok disk
  else match disk.find place last with
    | .ok .directory => .ok disk
    | .ok (.file _) => .error .occupied
    | .error .missing => .ok (disk.addDirectory (place ++ [last]))
    | .error problem => .error problem

/-- Makes the directory that names lead to, the last name first. If something on the way is missing, the
directory above is made and then a second attempt. -/
def makeAll (disk : Disk) (start : Path) : List String → Disk × Except DiskError Unit
  | [] => (disk, .ok ())
  | last :: names =>
    match disk.makeLast start names.reverse last with
    | .ok disk => (disk, .ok ())
    | .error .missing =>
      match disk.makeAll start names with
      | (disk, .error problem) => (disk, .error problem)
      | (disk, .ok ()) =>
        match disk.makeLast start names.reverse last with
        | .ok disk => (disk, .ok ())
        | .error problem => (disk, .error problem)
    | .error problem => (disk, .error problem)

def makeDirectory (disk : Disk) (start : Path) (names : List String) : Disk × Except DiskError Unit :=
  if names.any FileName.hasNull then (disk, .error .nullCharacter)
  else disk.makeAll start names.reverse

/-! ## Files -/

def look (disk : Disk) (start : Path) (names : List String) : Except DiskError DiskEntry :=
  if names.any FileName.hasNull then .error .nullCharacter
  else match names.getLast? with
    | none => .ok .directory
    | some last => do
      let place ← disk.walk start names.dropLast
      if last == ".." then .ok .directory else disk.find place last

/-- Opens a file for writing at its end; a file that is not there yet is made in its directory. -/
def openFile (disk : Disk) (place : Path) : Except DiskError (Disk × Nat) :=
  match disk.look [] place with
  | .ok (.file id) => .ok (disk, id)
  | .ok .directory => .error .isDirectory
  | .error .missing =>
    match disk.walk [] place.dropLast with
    | .ok _ => .ok (disk.addFile place, disk.contents.length)
    | .error _ => .error .missing
  | .error problem => .error problem

def clear (disk : Disk) (place : Path) : Except DiskError Disk :=
  match disk.found? place with
  | none => .ok disk
  | some .directory => .error .isDirectory
  | some (.file _) => .ok (disk.remove place)

def shift (disk : Disk) (source target : Path) : Except DiskError Disk :=
  match disk.found? source with
  | none => .ok disk
  | some _ =>
    match disk.clear target with
    | .error problem => .error problem
    | .ok disk =>
      if FileName.isLong (target.getLastD "") then .error .longName else .ok (disk.move source target)

/-! ## Rotation -/

def backup (file : Path) (number : Nat) : Path :=
  file.dropLast ++ [file.getLastD "" ++ "." ++ toString number]

def shiftBackups (disk : Disk) (file : Path) : Nat → Disk × Except DiskError Unit
  | 0 => (disk, .ok ())
  | number + 1 =>
    match disk.shift (backup file (number + 1)) (backup file (number + 2)) with
    | .error problem => (disk, .error problem)
    | .ok disk => disk.shiftBackups file number

/-- Moves a file and its backups on, up to a number of backups; the last of them is dropped. -/
def rotate (disk : Disk) (file : Path) : Nat → Disk × Except DiskError Unit
  | 0 => (disk, .ok ())
  | count + 1 =>
    match disk.shiftBackups file count with
    | (disk, .error problem) => (disk, .error problem)
    | (disk, .ok ()) =>
      match disk.clear (backup file 1) >>= fun cleared => cleared.shift file (backup file 1) with
      | .error problem => (disk, .error problem)
      | .ok disk => (disk, .ok ())

end Disk

end QueryGate.Journal
