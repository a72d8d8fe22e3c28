import Mathlib.Data.List.Pairwise
import QueryGate.Journal.Handler
import QueryGate.Proofs.Journal.Files
/-!
Files that are moved on. A rotation moves a file and its backups and touches nothing else, and it fails only if the
last backup has to make room and a directory stands in its place. So a handler whose file stands at its place writes
every text there that a file can hold, unless the text makes the file too large and the rotation fails.
-/

namespace QueryGate.Journal

namespace Disk

variable {disk between later : Disk} {file place other source target : Path} {id number count : Nat}

/-! ## Backups -/

private theorem exists_backup (stated : file ≠ []) :
    ∃ names last, file = names ++ [last] ∧
      ∀ number, backup file number = names ++ [last ++ "." ++ toString number] := by
  rcases List.eq_nil_or_concat file with rfl | ⟨names, last, same⟩
  · exact absurd rfl stated
  · rw [List.concat_eq_append] at same
    subst same
    exact ⟨names, last, rfl, fun number => by simp [backup]⟩

theorem backup_ne_nil (file : Path) (number : Nat) : backup file number ≠ [] :=
  List.append_ne_nil_of_right_ne_nil _ (List.cons_ne_nil _ _)

theorem eq_of_isPrefix_backup {first second : Nat} (inside : backup file first <+: backup file second) :
    first = second := by
  have same := inside.eq_of_length (by simp [backup])
  have named := List.append_cancel_left same
  have digits : first.repr = second.repr := by simpa using named
  have chars := congrArg String.toList digits
  simp only [Nat.toList_repr] at chars
  have read := congrArg (Nat.ofDigitChars 10 · 0) chars
  simpa [Nat.ofDigitChars_toDigits] using read

private theorem not_isPrefix_backup (stated : file ≠ []) (number : Nat) : ¬backup file number <+: file := by
  obtain ⟨names, last, rfl, named⟩ := exists_backup stated
  rw [named]
  intro inside
  have same := List.append_cancel_left (inside.eq_of_length (by simp))
  have lengths := congrArg String.length (List.cons.inj same).1
  simp only [String.length_append] at lengths
  have dot : ".".length = 1 := rfl
  omega

/-! ## What a rotation touches -/

/-- Neither a file nor any backup of it is on the way to a place. -/
structure IsApart (file place : Path) : Prop where
  backups : ∀ number, ¬backup file number <+: place
  itself : ¬file <+: place

theorem IsApart.above (apart : IsApart file place) (inside : other <+: place) : IsApart file other :=
  ⟨fun number there => apart.backups number (there.trans inside), fun there => apart.itself (there.trans inside)⟩

/-- The directories above a file are apart from it. -/
theorem isApart_above {names : List String} {last : String} (inside : other <+: names) :
    IsApart (names ++ [last]) other := by
  have length := inside.length_le
  refine ⟨fun number there => ?_, fun there => ?_⟩
  · have longer := there.length_le
    rw [backup, List.dropLast_concat, List.length_append, List.length_singleton] at longer
    omega
  · have longer := there.length_le
    rw [List.length_append, List.length_singleton] at longer
    omega

/-- Files keep what they hold, and what is apart from a file stays where it is. -/
structure Rearranges (file : Path) (disk later : Disk) : Prop where
  contents : later.contents = disk.contents
  found? : ∀ other, IsApart file other → later.found? other = disk.found? other

theorem Rearranges.refl (file : Path) (disk : Disk) : Rearranges file disk disk := ⟨rfl, fun _ _ => rfl⟩

theorem Rearranges.trans (first : Rearranges file disk between) (second : Rearranges file between later) :
    Rearranges file disk later :=
  ⟨second.contents.trans first.contents,
    fun other apart => (second.found? other apart).trans (first.found? other apart)⟩

theorem Rearranges.spares (rearranges : Rearranges file disk later) (apart : IsApart file place) :
    Spares place disk later :=
  .of_found? (fun before inside => rearranges.found? before (apart.above inside)) rearranges.contents

theorem rearranges_clear (cleared : disk.clear (backup file number) = .ok later) : Rearranges file disk later := by
  unfold clear at cleared
  split at cleared
  next => exact Except.ok.inj cleared ▸ .refl file disk
  next => cases cleared
  next =>
    obtain rfl := Except.ok.inj cleared
    exact ⟨rfl, fun other apart => found?_remove fun same => apart.backups number (same ▸ List.prefix_rfl)⟩

theorem rearranges_shift (away : ∀ other, IsApart file other → ¬source <+: other)
    (shifted : disk.shift source (backup file number) = .ok later) : Rearranges file disk later := by
  unfold shift at shifted
  split at shifted
  next => exact Except.ok.inj shifted ▸ .refl file disk
  next =>
    split at shifted
    next => cases shifted
    next cleared made =>
      split at shifted
      next => cases shifted
      next =>
        obtain rfl := Except.ok.inj shifted
        exact (rearranges_clear made).trans
          ⟨rfl, fun other apart => found?_move (away other apart) (apart.backups number)⟩

private theorem rearranges_shiftBackups (disk : Disk) (file : Path) (number : Nat) :
    Rearranges file disk (disk.shiftBackups file number).1 := by
  induction number generalizing disk with
  | zero => exact .refl file disk
  | succ number ih =>
    rw [shiftBackups]
    split
    next => exact .refl file disk
    next shifted => exact (rearranges_shift (fun _ apart => apart.backups _) shifted).trans (ih _)

theorem rearranges_rotate (disk : Disk) (file : Path) (count : Nat) :
    Rearranges file disk (disk.rotate file count).1 := by
  unfold rotate
  split
  next => exact .refl file disk
  next count =>
    have backups := rearranges_shiftBackups disk file count
    split
    next failed => rwa [failed] at backups
    next done =>
      rw [done] at backups
      split
      next => exact backups
      next moved =>
        obtain ⟨cleared, first, second⟩ := Outcome.bind_eq_ok.mp moved
        exact backups.trans ((rearranges_clear first).trans (rearranges_shift (fun _ apart => apart.itself) second))

/-! ## When a rotation fails -/

/-- The last backup but one has to move on, and a directory stands in its way. -/
def IsBlocked (disk : Disk) (file : Path) (count : Nat) : Prop :=
  disk.found? (backup file (count - 1)) ≠ none ∧ disk.found? (backup file count) = some .directory

def HasShortBackups (file : Path) (count : Nat) : Prop :=
  ∀ number ≤ count, FileName.isLong ((backup file number).getLastD "") = false

theorem shift_of_vacant (stated : source ≠ []) (apart : ¬target <+: source)
    (short : FileName.isLong (target.getLastD "") = false) (vacant : disk.found? target = none) :
    ∃ later, disk.shift source target = .ok later ∧ later.found? source = none := by
  unfold shift
  split
  next none => exact ⟨disk, rfl, none⟩
  next =>
    have cleared : disk.clear target = .ok disk := by rw [clear, vacant]
    simp only [cleared, short]
    exact ⟨_, rfl, found?_move_source stated apart⟩

/-- The backups move on if there is room behind them. -/
theorem shiftBackups_of_vacant (short : HasShortBackups file (number + 1))
    (vacant : disk.found? (backup file (number + 1)) = none) :
    ∃ later, disk.shiftBackups file number = (later, .ok ()) ∧ later.found? (backup file 1) = none := by
  -- Every shift makes the room that the next one needs.
  induction number generalizing disk with
  | zero => exact ⟨disk, rfl, vacant⟩
  | succ number ih =>
    have differ : ¬backup file (number + 2) <+: backup file (number + 1) :=
      fun inside => by have := eq_of_isPrefix_backup inside; omega
    obtain ⟨between, shifted, left⟩ := shift_of_vacant (backup_ne_nil _ _) differ (short _ (Nat.le_refl _)) vacant
    rw [shiftBackups, shifted]
    exact ih (fun other less => short other (Nat.le_succ_of_le less)) left

private theorem rotate_of_blocked (blocked : disk.IsBlocked file (count + 2)) :
    ∃ problem, disk.rotate file (count + 2) = (disk, .error problem) := by
  obtain ⟨filled, directory⟩ := blocked
  have stopped : disk.shift (backup file (count + 1)) (backup file (count + 2)) = .error .isDirectory := by
    obtain ⟨entry, there⟩ := Option.ne_none_iff_exists'.mp filled
    have seen : disk.found? (backup file (count + 1)) = some entry := there
    have refused : disk.clear (backup file (count + 2)) = .error .isDirectory := by rw [clear, directory]
    rw [shift, seen]
    simp only [refused]
  refine ⟨.isDirectory, ?_⟩
  rw [rotate, shiftBackups, stopped]

private theorem rotate_of_free (stated : file ≠ []) (short : HasShortBackups file (count + 2))
    (free : ¬disk.IsBlocked file (count + 2)) :
    ∃ later, disk.rotate file (count + 2) = (later, .ok ()) ∧ later.found? file = none := by
  have differ : ¬backup file (count + 2) <+: backup file (count + 1) :=
    fun inside => by have := eq_of_isPrefix_backup inside; omega
  have first : ∃ later, disk.shift (backup file (count + 1)) (backup file (count + 2)) = .ok later ∧
      later.found? (backup file (count + 1)) = none := by
    unfold shift
    split
    next none => exact ⟨disk, rfl, none⟩
    next seen =>
      have plain : disk.found? (backup file (count + 2)) ≠ some .directory :=
        fun directory => free ⟨Option.ne_none_iff_exists'.mpr ⟨_, seen⟩, directory⟩
      have cleared : ∃ cleared, disk.clear (backup file (count + 2)) = .ok cleared := by
        unfold clear
        split
        next => exact ⟨_, rfl⟩
        next directory => exact absurd directory plain
        next => exact ⟨_, rfl⟩
      obtain ⟨cleared, made⟩ := cleared
      simp only [made, short _ (Nat.le_refl _)]
      exact ⟨_, rfl, found?_move_source (backup_ne_nil _ _) differ⟩
  obtain ⟨between, shifted, left⟩ := first
  obtain ⟨moved, onwards, vacant⟩ :=
    shiftBackups_of_vacant (fun other less => short other (Nat.le_succ_of_le less)) left
  have cleared : moved.clear (backup file 1) = .ok moved := by rw [clear, vacant]
  obtain ⟨later, last, gone⟩ :=
    shift_of_vacant stated (not_isPrefix_backup stated 1) (short 1 (by omega)) vacant
  refine ⟨later, ?_, gone⟩
  rw [rotate, shiftBackups, shifted]
  have both : (moved.clear (backup file 1) >>= fun cleared => cleared.shift file (backup file 1)) = .ok later :=
    Outcome.bind_eq_ok.mpr ⟨moved, cleared, last⟩
  simp only [onwards, both]

/-- After a rotation a new file can be opened. -/
theorem stands_after_rotate (straight : ".." ∉ file) (stands : disk.Stands file id)
    (rearranges : Rearranges file disk later) (gone : later.found? file = none) :
    later.openFile file = .ok (later.addFile file, later.contents.length) := by
  obtain ⟨names, last, rfl⟩ := stands.exists_last
  obtain ⟨clean, walked, short, -⟩ := (stands_iff straight).mp stands
  have further : ".." ∉ names := fun member => straight (List.mem_append_left _ member)
  have onwards : later.walk [] names = .ok names := by
    have each := ((walk_eq_ok_iff further).mp walked).2
    refine (walk_eq_ok_iff further).mpr ⟨rfl, fun before name after split => ?_⟩
    obtain ⟨short, directory⟩ := each before name after split
    have inside : [] ++ before ++ [name] <+: names := ⟨after, by simp [split]⟩
    exact ⟨short, (rearranges.found? _ (isApart_above inside)).trans directory⟩
  rw [openFile, look_missing straight clean onwards short gone, List.dropLast_concat, onwards]

end Disk

namespace Output

open Disk

variable {output between later : Output} {isHalf : Char → Bool} {text : String} {place : Path} {id : Nat}

/-! ## Getting ready -/

def settled : Except Output Output → Output
  | .ok output | .error output => output

inductive Prepares (output : Output) : Output → Prop
  | refl : Prepares output output
  | opened {between : Output} {disk : Disk} {id : Nat} (before : Prepares output between)
      (opened : between.disk.openFile between.handler.file = .ok (disk, id)) :
      Prepares output ⟨{ between.handler with stream := some id }, disk⟩
  | turned {between : Output} (before : Prepares output between) :
      Prepares output ⟨{ between.handler with stream := none },
        (between.disk.rotate between.handler.file between.handler.backupCount).1⟩

theorem prepares_reopen (before : Prepares output between) : Prepares output (settled between.reopen) := by
  unfold reopen
  split
  next => exact before
  next =>
    split
    next => exact before
    next opened => exact before.opened opened

private theorem prepares_rollOver (before : Prepares output between) : Prepares output (settled between.rollOver) := by
  have turned := before.turned
  rw [rollOver]
  split
  next failed => rwa [failed] at turned
  next done =>
    rw [done] at turned
    exact prepares_reopen turned

theorem prepares_bind {first : Except Output Output} {second : Output → Except Output Output}
    (before : Prepares output (settled first))
    (after : ∀ between, Prepares output between → Prepares output (settled (second between))) :
    Prepares output (settled (first >>= second)) := by
  cases first with
  | error stopped => exact before
  | ok between => exact after between before

private theorem prepares_makeRoom (output : Output) (text : String) :
    Prepares output (settled (output.makeRoom text)) := by
  unfold makeRoom
  split
  next => exact .refl
  next =>
    refine prepares_bind (prepares_reopen .refl) fun between before => ?_
    split
    next => exact prepares_rollOver before
    next => exact before

/-- A handler gets ready, and then its text goes into the file that it has open, or nowhere. -/
theorem emit_cases (isHalf : Char → Bool) (text : String) (output : Output) :
    ∃ ready, Prepares output ready ∧ (output.emit isHalf text = ready ∨
      ∃ id, ready.handler.stream = some id ∧
        output.emit isHalf text = { ready with disk := ready.disk.append id text }) := by
  refine ⟨settled (output.makeRoom text >>= reopen), ?_, ?_⟩
  · exact prepares_bind (prepares_makeRoom output text) fun _ => prepares_reopen
  · rw [emit]
    cases output.makeRoom text >>= reopen with
    | error stopped => exact .inl rfl
    | ok ready =>
      change (if _ then _ else _) = ready ∨ _
      split
      next => exact .inl rfl
      next =>
        change ({ ready with disk := ready.handler.stream.elim ready.disk _ } : Output) = ready ∨ _
        cases held : ready.handler.stream with
        | none => exact .inl rfl
        | some id => exact .inr ⟨id, held, by simp only [held]; rfl⟩

/-! ## What stays -/

theorem Prepares.toHandler (prepares : Prepares output later) :
    later.handler.toHandler = output.handler.toHandler := by
  induction prepares with
  | refl => rfl
  | opened _ _ ih => exact ih
  | turned _ ih => exact ih

theorem Prepares.content (prepares : Prepares output later) (id : Nat) :
    later.disk.content id = output.disk.content id := by
  induction prepares with
  | refl => rfl
  | opened _ opened ih => exact (content_openFile opened id).trans ih
  | turned _ ih => exact (content_of_contents (rearranges_rotate _ _ _).contents id).trans ih

theorem toHandler_emit (isHalf : Char → Bool) (text : String) (output : Output) :
    (output.emit isHalf text).handler.toHandler = output.handler.toHandler := by
  obtain ⟨ready, prepares, same | ⟨_, -, same⟩⟩ := emit_cases isHalf text output
  · rw [same, prepares.toHandler]
  · rw [same, ← prepares.toHandler]

/-- A text goes into one file at most, and there it goes behind what the file holds. -/
theorem content_emit (isHalf : Char → Bool) (text : String) (output : Output) :
    ∃ target : Option Nat, ∀ id, (output.emit isHalf text).disk.content id =
      output.disk.content id ++ if target = some id then text else "" := by
  obtain ⟨ready, prepares, same | ⟨target, -, same⟩⟩ := emit_cases isHalf text output
  · exact ⟨none, fun id => by rw [same, prepares.content, if_neg nofun, String.append_empty]⟩
  · by_cases inside : target < ready.disk.contents.length
    · refine ⟨some target, fun id => ?_⟩
      rw [same, ← prepares.content]
      by_cases here : target = id
      · rw [if_pos (congrArg some here), ← here]
        exact content_append_self inside text
      · rw [if_neg (mt Option.some.inj here), String.append_empty]
        exact content_append_other here text
    · refine ⟨none, fun id => ?_⟩
      rw [same, if_neg nofun, String.append_empty, ← prepares.content]
      change ((ready.disk.contents.modify target (· ++ text))[id]?).getD "" = _
      rw [List.modify_eq_self (Nat.le_of_not_lt inside)]
      rfl

def IsWithin (output : Output) : Prop := ∀ id, output.handler.stream = some id → id < output.disk.contents.length

theorem Prepares.isWithin (prepares : Prepares output later) (within : output.IsWithin) : later.IsWithin := by
  induction prepares with
  | refl => exact within
  | opened _ opened _ => exact fun id held => Option.some.inj held ▸ lt_of_openFile opened
  | turned => exact nofun

theorem Prepares.grown (prepares : Prepares output later) :
    output.disk.contents.length ≤ later.disk.contents.length := by
  induction prepares with
  | refl => exact Nat.le_refl _
  | opened _ opened ih => exact Nat.le_trans ih (length_openFile opened)
  | @turned between _ ih =>
    have kept := (rearranges_rotate between.disk between.handler.file between.handler.backupCount).contents
    exact kept ▸ ih

theorem isWithin_emit (within : output.IsWithin) (isHalf : Char → Bool) (text : String) :
    (output.emit isHalf text).IsWithin ∧
      output.disk.contents.length ≤ (output.emit isHalf text).disk.contents.length := by
  obtain ⟨ready, prepares, same | ⟨target, -, same⟩⟩ := emit_cases isHalf text output
  · rw [same]
    exact ⟨prepares.isWithin within, prepares.grown⟩
  · have length : (ready.disk.append target text).contents.length = ready.disk.contents.length :=
      List.length_modify ..
    rw [same]
    exact ⟨fun id held => length ▸ prepares.isWithin within id held, length ▸ prepares.grown⟩

end Output

open Disk

/-! ## Handlers of other files -/

/-- A handler is at work elsewhere: the file that it has open is not at a place, and neither its own place nor those
of its backups are on the way there. -/
structure IsElsewhere (disk : Disk) (place : Path) (handler : OpenHandler) : Prop where
  straight : ".." ∉ handler.file
  apart : IsApart handler.file place
  away : ∀ id, handler.stream = some id → disk.found? place ≠ some (.file id)

theorem IsElsewhere.spares {disk later : Disk} {place : Path} {handler : OpenHandler}
    (elsewhere : IsElsewhere disk place handler) (spares : Spares place disk later) :
    IsElsewhere later place handler :=
  ⟨elsewhere.straight, elsewhere.apart, fun id held => mt (spares.file id).mp (elsewhere.away id held)⟩

/-- A handler that opens its file is still elsewhere. -/
theorem isElsewhere_openFile {disk later : Disk} {place : Path} {handler : OpenHandler} {id : Nat}
    (straight : ".." ∉ handler.file) (apart : IsApart handler.file place)
    (opened : disk.openFile handler.file = .ok (later, id)) (held : handler.stream = some id) :
    Spares place disk later ∧ IsElsewhere later place handler := by
  have differ : handler.file ≠ place := fun same => apart.itself (same ▸ List.prefix_rfl)
  refine ⟨spares_openFile differ opened, straight, apart, fun other same there => ?_⟩
  obtain rfl := Option.some.inj (held.symm.trans same)
  exact differ (found?_inj ((stands_openFile straight opened).entry straight) there)

namespace Output

variable {output later : Output} {isHalf : Char → Bool} {text : String} {place : Path} {id : Nat}

theorem Prepares.spares (prepares : Prepares output later)
    (elsewhere : IsElsewhere output.disk place output.handler) :
    Spares place output.disk later.disk ∧ IsElsewhere later.disk place later.handler := by
  induction prepares with
  | refl => exact ⟨.refl place _, elsewhere⟩
  | @opened between disk id _ opened ih =>
    obtain ⟨spared, there⟩ := ih
    have after : Spares place between.disk disk ∧
        IsElsewhere disk place { between.handler with stream := some id } :=
      isElsewhere_openFile there.straight there.apart opened rfl
    exact ⟨spared.trans after.1, after.2⟩
  | @turned between _ ih =>
    obtain ⟨spared, there⟩ := ih
    have rearranges := rearranges_rotate between.disk between.handler.file between.handler.backupCount
    exact ⟨spared.trans (rearranges.spares there.apart), there.straight, there.apart, nofun⟩

theorem spares_emit (elsewhere : IsElsewhere output.disk place output.handler) (isHalf : Char → Bool)
    (text : String) : Spares place output.disk (output.emit isHalf text).disk ∧
      IsElsewhere (output.emit isHalf text).disk place (output.emit isHalf text).handler := by
  obtain ⟨ready, prepares, same | ⟨target, held, same⟩⟩ := emit_cases isHalf text output
  · rw [same]
    exact prepares.spares elsewhere
  · obtain ⟨spared, there⟩ := prepares.spares elsewhere
    have appended := spares_append (there.away target held) text
    rw [same]
    exact ⟨spared.trans appended, there.spares appended⟩

/-! ## Handlers in their place -/

/-- The file of a handler stands at its place, and the handler has no other file open. -/
structure InPlace (output : Output) (id : Nat) : Prop where
  straight : ".." ∉ output.handler.file
  stands : output.disk.Stands output.handler.file id
  stream : output.handler.stream = none ∨ output.handler.stream = some id

theorem emit_of_room (held : output.handler.stream = some id) (room : output.isDue text = false) :
    output.emit isHalf text = if text.toList.any isHalf then output else
      { output with disk := output.disk.append id text } := by
  have reopened : output.reopen = .ok output := by rw [reopen, held]
  have ready : (output.makeRoom text >>= reopen) = .ok output := by
    have roomy : output.makeRoom text = .ok output := by
      unfold makeRoom
      split
      next => rfl
      next =>
        rw [reopened]
        change (if output.isDue text then _ else _) = _
        rw [room]
        rfl
    rw [roomy]
    exact reopened
  rw [emit, ready]
  change (if _ then _ else _) = _
  rw [held]
  rfl

def reopened (output : Output) (id : Nat) : Output := ⟨{ output.handler with stream := some id }, output.disk⟩

theorem reopen_inPlace (inPlace : InPlace output id) : output.reopen = .ok (output.reopened id) := by
  obtain ⟨handler, disk⟩ := output
  rcases inPlace.stream with none | held
  · rw [reopen, none, inPlace.stands.openFile]
    rfl
  · rw [reopen, held]
    obtain ⟨handler, stream⟩ := handler
    obtain rfl : stream = some id := held
    rfl

theorem inPlace_reopened (inPlace : InPlace output id) : InPlace (output.reopened id) id :=
  ⟨inPlace.straight, inPlace.stands, .inr rfl⟩

private theorem emit_reopened (inPlace : InPlace output id) (isHalf : Char → Bool) (text : String) :
    output.emit isHalf text = (output.reopened id).emit isHalf text := by
  have again : (output.reopened id).reopen = .ok (output.reopened id) := reopen_inPlace (inPlace_reopened inPlace)
  have first : output.makeRoom text = (output.reopened id).makeRoom text := by
    rw [makeRoom, makeRoom, reopen_inPlace inPlace, again]
    have there := inPlace.stands.entry inPlace.straight
    have file : output.disk.found? output.handler.file ≠ some .directory := by simp [there]
    rw [if_neg file]
    exact (if_neg file).symm
  rw [emit, emit, first]

def IsFull (output : Output) (id : Nat) (text : String) : Prop :=
  0 < output.handler.maxBytes ∧
    output.handler.maxBytes ≤ (output.disk.content id).utf8ByteSize + text.length

theorem isDue_reopened_iff : (output.reopened id).isDue text = true ↔ output.IsFull id text := by
  rw [isDue, Bool.and_eq_true, decide_eq_true_iff, decide_eq_true_iff]
  rfl

private theorem rollOver_of_error {problem : DiskError} {disk : Disk}
    (failed : output.disk.rotate output.handler.file output.handler.backupCount = (disk, .error problem)) :
    output.rollOver = .error ⟨{ output.handler with stream := none }, disk⟩ := by
  rw [rollOver]
  simp only [failed]

private theorem rollOver_of_ok {disk : Disk}
    (done : output.disk.rotate output.handler.file output.handler.backupCount = (disk, .ok ())) :
    output.rollOver = reopen ⟨{ output.handler with stream := none }, disk⟩ := by
  rw [rollOver]
  simp only [done]

/-- The text that makes a file too large ends with the rotation if that fails, and goes into a new file otherwise. -/
theorem emit_full {count : Nat} (counted : output.handler.backupCount = count + 2)
    (short : HasShortBackups output.handler.file (count + 2)) (inPlace : InPlace output id)
    (full : output.IsFull id text) (isHalf : Char → Bool) :
    output.disk.IsBlocked output.handler.file (count + 2) ∧
        output.emit isHalf text = ⟨{ output.handler with stream := none }, output.disk⟩ ∨
      ¬output.disk.IsBlocked output.handler.file (count + 2) ∧ ∃ ready, InPlace ready output.disk.contents.length ∧
        ready.handler.stream = some output.disk.contents.length ∧
        ready.disk.content output.disk.contents.length = output.disk.content output.disk.contents.length ∧
        output.emit isHalf text = if text.toList.any isHalf then ready else
          { ready with disk := ready.disk.append output.disk.contents.length text } := by
  have there := inPlace.stands.entry inPlace.straight
  have stated : output.handler.file ≠ [] := by
    obtain ⟨names, last, same⟩ := inPlace.stands.exists_last
    rw [same]
    exact List.append_ne_nil_of_right_ne_nil _ (List.cons_ne_nil _ _)
  have rolls : output.makeRoom text = (output.reopened id).rollOver := by
    have plain : output.disk.found? output.handler.file ≠ some .directory := by simp [there]
    rw [makeRoom, if_neg plain, reopen_inPlace inPlace]
    exact if_pos (isDue_reopened_iff.mpr full)
  by_cases blocked : output.disk.IsBlocked output.handler.file (count + 2)
  · obtain ⟨problem, stopped⟩ := rotate_of_blocked blocked
    have ended : (output.reopened id).rollOver = .error ⟨{ output.handler with stream := none }, output.disk⟩ :=
      rollOver_of_error (counted ▸ stopped)
    refine .inl ⟨blocked, ?_⟩
    rw [emit, rolls, ended]
    rfl
  · obtain ⟨turned, done, gone⟩ := rotate_of_free stated short blocked
    have rearranges := rearranges_rotate output.disk output.handler.file (count + 2)
    rw [done] at rearranges
    have opened := stands_after_rotate inPlace.straight inPlace.stands rearranges gone
    have length : turned.contents.length = output.disk.contents.length := congrArg List.length rearranges.contents
    rw [length] at opened
    let ready : Output := ⟨{ output.handler with stream := some output.disk.contents.length },
      turned.addFile output.handler.file⟩
    have moved : (output.reopened id).rollOver = reopen ⟨{ output.handler with stream := none }, turned⟩ :=
      rollOver_of_ok (counted ▸ done)
    have reopens : (output.reopened id).rollOver = .ok ready := by
      rw [moved, reopen, opened]
    refine .inr ⟨blocked, ready, ⟨inPlace.straight, stands_openFile inPlace.straight opened, .inr rfl⟩, rfl, ?_, ?_⟩
    · exact (content_addFile turned _ _).trans (content_of_contents rearranges.contents _)
    · rw [emit, rolls, reopens]
      rfl

/-- A handler in its place is still there after a text, perhaps with a new file. It has written the text, unless no
file can hold the text, or the text is too much for the file and the rotation fails. -/
theorem emit_inPlace {count : Nat} (counted : output.handler.backupCount = count + 2)
    (short : HasShortBackups output.handler.file (count + 2)) (inPlace : InPlace output id)
    (isHalf : Char → Bool) (text : String) :
    ∃ file, InPlace (output.emit isHalf text) file ∧ (file = id ∨ output.disk.contents.length ≤ file) ∧
      let lost := text.toList.any isHalf = true ∨
        output.IsFull id text ∧ output.disk.IsBlocked output.handler.file (count + 2)
      (lost → (output.emit isHalf text).disk.content file = output.disk.content file) ∧
      (¬lost → (output.emit isHalf text).disk.content file = output.disk.content file ++ text) := by
  -- What happens to a text once the handler has the right file open.
  have written {ready : Output} {file : Nat} (standing : InPlace ready file) :
      InPlace { ready with disk := ready.disk.append file text } file ∧
        (ready.disk.append file text).content file = ready.disk.content file ++ text :=
    ⟨⟨standing.straight, standing.stands.append standing.straight file text, standing.stream⟩,
      content_append_self (lt_of_stands standing.stands) text⟩
  have standing := inPlace_reopened inPlace
  by_cases full : output.IsFull id text
  · rcases emit_full counted short inPlace full isHalf with ⟨blocked, stopped⟩ | ⟨free, ready, there, held, kept, wrote⟩
    · rw [stopped]
      exact ⟨id, ⟨inPlace.straight, inPlace.stands, .inl rfl⟩, .inl rfl, fun _ => rfl,
        fun told => absurd (.inr ⟨full, blocked⟩) told⟩
    · rw [wrote]
      split
      next half => exact ⟨_, there, .inr (Nat.le_refl _), fun _ => kept, fun told => absurd (.inl half) told⟩
      next whole =>
        obtain ⟨still, content⟩ := written there
        exact ⟨_, still, .inr (Nat.le_refl _), fun lost => absurd lost (by simp [whole, free]),
          fun _ => by rw [← kept]; exact content⟩
  · have room : (output.reopened id).isDue text = false := by
      rw [← Bool.not_eq_true, isDue_reopened_iff]
      exact full
    rw [emit_reopened inPlace, emit_of_room rfl room]
    split
    next half => exact ⟨id, standing, .inl rfl, fun _ => rfl, fun told => absurd (.inl half) told⟩
    next whole =>
      obtain ⟨there, content⟩ := written standing
      exact ⟨id, there, .inl rfl, fun lost => absurd lost (by simp [whole, full]), fun _ => content⟩

end Output

end QueryGate.Journal
