import Mathlib.Data.String.Basic
import QueryGate.Proofs.Journal.Requests
/-!
What a line comes to. Handlers take it one after another, and each of them writes it once at most, into one file and
behind what the file holds. A line changes neither the configuration nor what loggers were made with.
-/

namespace QueryGate.Journal

open QueryGate.Journal.Output

variable {key name : String} {journal later : Journal} {isHalf : Char → Bool} {stamp : Stamp} {line : Line}

/-! ## Lines -/

def deliverOne (isHalf : Char → Bool) (name : String) (stamp : Stamp) (line : Line) (output : Output) : Output :=
  if line.level.reaches output.handler.threshold then
    output.emit isHalf (output.handler.layout.write name stamp line)
  else output

theorem deliver_cons (handler : OpenHandler) (handlers : List OpenHandler) (disk : Disk) :
    deliver isHalf name stamp line (handler :: handlers) disk =
      let output := deliverOne isHalf name stamp line ⟨handler, disk⟩
      let rest := deliver isHalf name stamp line handlers output.disk
      (output.handler :: rest.1, rest.2) := rfl

private theorem toHandler_deliver (handlers : List OpenHandler) (disk : Disk) :
    (deliver isHalf name stamp line handlers disk).1.map OpenHandler.toHandler =
      handlers.map OpenHandler.toHandler := by
  induction handlers generalizing disk with
  | nil => rfl
  | cons handler handlers ih =>
    have kept : (deliverOne isHalf name stamp line ⟨handler, disk⟩).handler.toHandler = handler.toHandler := by
      unfold deliverOne
      split
      next => exact Output.toHandler_emit ..
      next => rfl
    rw [deliver_cons, List.map_cons, List.map_cons, kept, ih]

/-- What holds of handlers and grows with the disk still holds of them after a line, and the disk has grown. -/
theorem deliver_induction (Fits : Disk → OpenHandler → Prop) (Grows : Disk → Disk → Prop) (isHalf : Char → Bool)
    (name : String) (stamp : Stamp) (line : Line) (refl : ∀ disk, Grows disk disk)
    (trans : ∀ {disk between later}, Grows disk between → Grows between later → Grows disk later)
    (mono : ∀ {disk later handler}, Grows disk later → Fits disk handler → Fits later handler)
    (emits : ∀ {output : Output} (text : String), Fits output.disk output.handler →
      Grows output.disk (output.emit isHalf text).disk ∧
        Fits (output.emit isHalf text).disk (output.emit isHalf text).handler)
    (handlers : List OpenHandler) (disk : Disk) (fits : ∀ handler ∈ handlers, Fits disk handler) :
    Grows disk (deliver isHalf name stamp line handlers disk).2 ∧
      ∀ handler ∈ (deliver isHalf name stamp line handlers disk).1,
        Fits (deliver isHalf name stamp line handlers disk).2 handler := by
  induction handlers generalizing disk with
  | nil => exact ⟨refl disk, List.forall_mem_nil _⟩
  | cons handler handlers ih =>
    rw [List.forall_mem_cons] at fits
    obtain ⟨grown, here⟩ : Grows disk (deliverOne isHalf name stamp line ⟨handler, disk⟩).disk ∧
        Fits (deliverOne isHalf name stamp line ⟨handler, disk⟩).disk
          (deliverOne isHalf name stamp line ⟨handler, disk⟩).handler := by
      unfold deliverOne
      split
      next => exact @emits ⟨handler, disk⟩ _ fits.1
      next => exact ⟨refl disk, fits.1⟩
    obtain ⟨further, there⟩ := ih _ fun other member => mono grown (fits.2 other member)
    rw [deliver_cons]
    exact ⟨trans grown further, List.forall_mem_cons.mpr ⟨mono further here, there⟩⟩

theorem write_of_heard {logger : Logger} (known : journal.logger? key = some logger)
    (heard : line.level.reaches logger.level = true) (stamp : Stamp) :
    journal.write key stamp line =
      let told := deliver journal.machine.isHalf (loggerPreamble ++ key) stamp line logger.handlers journal.disk
      { journal with
        loggers := mapHandlers journal.loggers key fun _ => told.1
        disk := told.2 } := by
  simp only [write, known, heard, if_true]

theorem write_of_unheard {logger : Logger} (known : journal.logger? key = some logger)
    (unheard : line.level.reaches logger.level = false) (stamp : Stamp) : journal.write key stamp line = journal := by
  simp [write, known, unheard]

private theorem write_of_unknown (unknown : journal.logger? key = none) (stamp : Stamp) (line : Line) :
    journal.write key stamp line = journal := by
  simp only [write, unknown]

theorem logger?_write_of_heard {logger : Logger} (known : journal.logger? key = some logger)
    (heard : line.level.reaches logger.level = true) (stamp : Stamp) (other : String) :
    (journal.write key stamp line).logger? other = if other = key then
        let told := deliver journal.machine.isHalf (loggerPreamble ++ key) stamp line logger.handlers journal.disk
        some { logger with handlers := told.1 }
      else journal.logger? other := by
  rw [write_of_heard known heard]
  refine (logger?_mapHandlers journal key other _).trans ?_
  rw [known]
  rfl

/-- A line changes nothing, or its logger hands it to its handlers. -/
theorem write_cases (journal : Journal) (key : String) (stamp : Stamp) (line : Line) :
    journal.write key stamp line = journal ∨
      ∃ logger, journal.logger? key = some logger ∧ line.level.reaches logger.level = true := by
  cases known : journal.logger? key with
  | none => exact .inl (write_of_unknown known stamp line)
  | some logger =>
    cases heard : line.level.reaches logger.level with
    | false => exact .inl (write_of_unheard known heard stamp)
    | true => exact .inr ⟨logger, rfl, heard⟩

theorem continues_write (journal : Journal) (key : String) (stamp : Stamp) (line : Line) :
    Continues journal (journal.write key stamp line) := by
  rcases write_cases journal key stamp line with same | ⟨logger, known, heard⟩
  · rw [same]
    exact .refl journal
  · rw [write_of_heard known heard]
    exact ⟨rfl, rfl, rfl, rfl⟩

/-- A line changes nothing of a logger but the files that its handlers have open. -/
theorem settings_write (journal : Journal) (key other : String) (stamp : Stamp) (line : Line) :
    ((journal.write key stamp line).logger? other).map Logger.settings =
      (journal.logger? other).map Logger.settings := by
  rcases write_cases journal key stamp line with same | ⟨logger, known, heard⟩
  · rw [same]
  · rw [logger?_write_of_heard known heard]
    split
    next here =>
      rw [here, known]
      simp only [Option.map_some, Logger.settings, toHandler_deliver]
    next => rfl

theorem handlerCount_of_settings (same : (later.logger? key).map Logger.settings =
    (journal.logger? key).map Logger.settings) : later.handlerCount key = journal.handlerCount key := by
  have counted (journal : Journal) : journal.handlerCount key =
      ((journal.logger? key).map Logger.settings).elim 0 fun settings => settings.2.1.length := by
    rw [handlerCount]
    cases journal.logger? key with
    | none => rfl
    | some logger => exact (List.length_map ..).symm
  rw [counted, counted, same]

/-- A logger without handlers has nowhere to write to. -/
theorem write_of_handlerCount (bare : journal.handlerCount key = 0) (stamp : Stamp) (line : Line) :
    (journal.write key stamp line).disk = journal.disk ∧
      ∀ other, (journal.write key stamp line).logger? other = journal.logger? other := by
  rcases write_cases journal key stamp line with same | ⟨logger, known, heard⟩
  · rw [same]
    exact ⟨rfl, fun _ => rfl⟩
  · obtain ⟨level, handlers, propagates⟩ := logger
    rw [handlerCount, known, Option.elim_some, List.length_eq_zero_iff] at bare
    obtain rfl : handlers = [] := bare
    refine ⟨by rw [write_of_heard known heard]; rfl, fun other => ?_⟩
    rw [logger?_write_of_heard known heard]
    split
    next here =>
      rw [here, known]
      rfl
    next => rfl

/-! ## What becomes of a line -/

/-- What handlers write for a line into one file, each once and in their order, if each writes into the file that is
told of it. -/
def textFor (handlers : List OpenHandler) (target : OpenHandler → Option Nat) (name : String) (stamp : Stamp)
    (line : Line) (id : Nat) : String :=
  String.join ((handlers.filter fun handler => line.level.reaches handler.threshold && target handler == some id).map
    fun handler => handler.layout.write name stamp line)

theorem textFor_cons (handler : OpenHandler) (handlers : List OpenHandler) (target : OpenHandler → Option Nat)
    (id : Nat) : textFor (handler :: handlers) target name stamp line id =
      (if line.level.reaches handler.threshold && target handler == some id then
        handler.layout.write name stamp line else "") ++ textFor handlers target name stamp line id := by
  rw [textFor, List.filter_cons]
  split
  next => rw [List.map_cons, String.join_cons, textFor]
  next => rw [String.empty_append, textFor]

private theorem textFor_congr {handlers : List OpenHandler} {target other : OpenHandler → Option Nat}
    (same : ∀ handler ∈ handlers, target handler = other handler) (id : Nat) :
    textFor handlers target name stamp line id = textFor handlers other name stamp line id := by
  rw [textFor, textFor, List.filter_congr fun handler member => by rw [same handler member]]

/-- Every handler writes a line once at most, and into one file. -/
theorem content_deliver {handlers : List OpenHandler} (differ : handlers.Nodup) (disk : Disk) :
    ∃ target, ∀ id, (deliver isHalf name stamp line handlers disk).2.content id =
      disk.content id ++ textFor handlers target name stamp line id := by
  induction handlers generalizing disk with
  | nil => exact ⟨fun _ => none, fun id => (String.append_empty).symm⟩
  | cons handler handlers ih =>
    obtain ⟨fresh, differ⟩ := List.nodup_cons.mp differ
    obtain ⟨others, further⟩ := ih differ (deliverOne isHalf name stamp line ⟨handler, disk⟩).disk
    have first : ∃ target : Option Nat, ∀ id, (deliverOne isHalf name stamp line ⟨handler, disk⟩).disk.content id =
        disk.content id ++ if line.level.reaches handler.threshold && target == some id then
          handler.layout.write name stamp line else "" := by
      unfold deliverOne
      split
      next reached =>
        obtain ⟨target, wrote⟩ := content_emit isHalf (handler.layout.write name stamp line) ⟨handler, disk⟩
        exact ⟨target, fun id => by simpa [reached] using wrote id⟩
      next => exact ⟨none, fun id => by simp⟩
    obtain ⟨target, here⟩ := first
    refine ⟨fun other => if other = handler then target else others other, fun id => ?_⟩
    have apart : ∀ other ∈ handlers, (if other = handler then target else others other) = others other := by
      intro other member
      refine if_neg fun same => fresh ?_
      rwa [← same]
    have rest : textFor handlers _ name stamp line id = _ := textFor_congr apart id
    rw [deliver_cons, textFor_cons, if_pos rfl, rest, ← String.append_assoc, ← here]
    exact further id

/-- Each handler has a file open in which there is room for all that the handlers write for a line. -/
def HasRoom (disk : Disk) (handlers : List OpenHandler) (name : String) (stamp : Stamp) (line : Line) : Prop :=
  ∀ handler ∈ handlers, ∃ id, handler.stream = some id ∧ (disk.content id).utf8ByteSize +
    (String.join (handlers.map fun other => other.layout.write name stamp line)).utf8ByteSize < handler.maxBytes

def openTarget (isHalf : Char → Bool) (name : String) (stamp : Stamp) (line : Line) (handler : OpenHandler) :
    Option Nat :=
  if (handler.layout.write name stamp line).toList.any isHalf then none else handler.stream

private theorem length_le_utf8ByteSize (text : String) : text.length ≤ text.utf8ByteSize := by
  have each (chars : List Char) : chars.length ≤ String.utf8Len chars := by
    induction chars with
    | nil => exact Nat.zero_le _
    | cons c chars ih =>
      have least := c.utf8Size_pos
      rw [String.utf8Len_cons, List.length_cons]
      omega
  have whole := each text.toList
  rwa [String.length_toList, ← String.utf8ByteSize_ofList, String.ofList_toList] at whole

/-- A handler with room writes a line into the file that it has open. -/
theorem content_deliverOne_of_room {handler : OpenHandler} {disk : Disk} {file : Nat}
    (within : IsWithin ⟨handler, disk⟩) (held : handler.stream = some file)
    (room : (disk.content file).utf8ByteSize + (handler.layout.write name stamp line).utf8ByteSize < handler.maxBytes)
    (id : Nat) : (deliverOne isHalf name stamp line ⟨handler, disk⟩).disk.content id = disk.content id ++
      if line.level.reaches handler.threshold && openTarget isHalf name stamp line handler == some id then
        handler.layout.write name stamp line else "" := by
  have short := length_le_utf8ByteSize (handler.layout.write name stamp line)
  have due : isDue ⟨handler, disk⟩ (handler.layout.write name stamp line) = false := by
    have sized : size ⟨handler, disk⟩ = (disk.content file).utf8ByteSize := by rw [size, held]; rfl
    rw [isDue, sized, Bool.and_eq_false_iff]
    exact .inr (decide_eq_false (Nat.not_le_of_lt (Nat.lt_of_le_of_lt (Nat.add_le_add_left short _) room)))
  unfold deliverOne
  split
  next reached =>
    rw [emit_of_room held due]
    split
    next half => simp [openTarget, half]
    next whole =>
      have there : openTarget isHalf name stamp line handler = some file := (if_neg whole).trans held
      rw [there]
      by_cases here : file = id
      · rw [← here, Disk.content_append_self (within file held)]
        simp [reached]
      · rw [Disk.content_append_other here]
        simp [here]
  next unreached => simp [unreached]

/-- As long as there is room, every handler writes a line into the file that it has open. -/
theorem content_deliver_of_room {handlers : List OpenHandler} {disk : Disk}
    (within : ∀ handler ∈ handlers, IsWithin ⟨handler, disk⟩) (room : HasRoom disk handlers name stamp line)
    (id : Nat) : (deliver isHalf name stamp line handlers disk).2.content id =
      disk.content id ++ textFor handlers (openTarget isHalf name stamp line) name stamp line id := by
  induction handlers generalizing disk with
  | nil => exact (String.append_empty).symm
  | cons handler handlers ih =>
    obtain ⟨file, held, bound⟩ := room handler (List.mem_cons_self ..)
    rw [List.map_cons, String.join_cons, String.utf8ByteSize_append] at bound
    have first (id : Nat) : (deliverOne isHalf name stamp line ⟨handler, disk⟩).disk.content id = _ :=
      content_deliverOne_of_room (within handler (List.mem_cons_self ..)) held (by omega) id
    have grown : disk.contents.length ≤ (deliverOne isHalf name stamp line ⟨handler, disk⟩).disk.contents.length := by
      unfold deliverOne
      split
      next => exact (isWithin_emit (within handler (List.mem_cons_self ..)) _ _).2
      next => exact Nat.le_refl _
    -- The file of another handler grows by the text of this one at most.
    have roomy : HasRoom (deliverOne isHalf name stamp line ⟨handler, disk⟩).disk handlers name stamp line := by
      intro other member
      obtain ⟨file, held, bound⟩ := room other (List.mem_cons_of_mem _ member)
      rw [List.map_cons, String.join_cons, String.utf8ByteSize_append] at bound
      refine ⟨file, held, ?_⟩
      rw [first, String.utf8ByteSize_append]
      split
      next => omega
      next =>
        have empty : "".utf8ByteSize = 0 := rfl
        omega
    have further : ∀ other ∈ handlers, IsWithin ⟨other, (deliverOne isHalf name stamp line ⟨handler, disk⟩).disk⟩ :=
      fun other member file held =>
        Nat.lt_of_lt_of_le (within other (List.mem_cons_of_mem _ member) file held) grown
    have rest := ih further roomy
    rw [deliver_cons, textFor_cons, ← String.append_assoc, ← first]
    exact rest

end QueryGate.Journal
