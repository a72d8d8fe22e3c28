import QueryGate.Proofs.Journal.Loggers
/-!
Files that one logger has to itself. As long as no other logger was handed out with its file in the way, the file of a
logger stands at its place and every line of the logger goes there, however often the file is moved on; the files that
all loggers share lie elsewhere. A line is lost only if no file can hold it, or if it makes the file too large and the
file cannot be moved on.
-/

namespace QueryGate.Journal

open QueryGate.Journal.Disk QueryGate.Journal.Output

variable {journal later : Journal} {past : List Event} {key name : String} {component : Option String}
  {disk : Disk} {place : Path}

/-! ## Handlers -/

def partFor (journal : Journal) (name : String) (component : Option String) : Handler :=
  ⟨journal.placeOf [component.getD "", Text.lower name ++ ".log"], .unset,
    if journal.debugMode then .located else .plain, 10485760, 5⟩

def sharedFor (journal : Journal) : List Handler :=
  (if journal.debugMode then [⟨journal.placeOf ["debug.log"], .debug, .traced, 52428800, 3⟩] else []) ++
    [⟨journal.placeOf ["error.log"], .error, .isolated, 10485760, 5⟩]

theorem handlersFor_eq (journal : Journal) (name : String) (component : Option String) :
    journal.handlersFor name component = journal.partFor name component :: journal.sharedFor := rfl

theorem Continues.partFor (continues : Continues journal later) (name : String) (component : Option String) :
    later.partFor name component = journal.partFor name component := by
  simp only [Journal.partFor, continues.placeOf, continues.debugMode]

/-- A handler that has its own file open is elsewhere. -/
theorem HasOpened.isElsewhere {handler : OpenHandler} (opened : HasOpened disk handler)
    (straight : ".." ∉ handler.file) (apart : IsApart handler.file place) : IsElsewhere disk place handler := by
  obtain ⟨id, held, there⟩ := opened
  refine ⟨straight, apart, fun other same found => ?_⟩
  obtain rfl := Option.some.inj (held.symm.trans same)
  exact apart.itself (found?_inj there found ▸ List.prefix_rfl)

/-- A handler stays elsewhere when the file at a place is replaced by a new one. -/
theorem IsElsewhere.replaced {handler : OpenHandler} {after : Disk} {file : Nat}
    (elsewhere : IsElsewhere disk place handler) (within : IsWithin ⟨handler, disk⟩)
    (there : after.found? place = some (.file file))
    (fresh : disk.found? place = some (.file file) ∨ disk.contents.length ≤ file) :
    IsElsewhere after place handler := by
  refine ⟨elsewhere.straight, elsewhere.apart, fun id held found => ?_⟩
  obtain rfl : file = id := DiskEntry.file.inj (Option.some.inj (there.symm.trans found))
  rcases fresh with before | new
  · exact elsewhere.away file held before
  · exact absurd (within file held) (Nat.not_lt_of_le new)

theorem Output.InPlace.spares {handler : OpenHandler} {after : Disk} {id : Nat} (inPlace : InPlace ⟨handler, disk⟩ id)
    (spares : Spares handler.file disk after) : InPlace ⟨handler, after⟩ id :=
  ⟨inPlace.straight, inPlace.stands.spares inPlace.straight spares, inPlace.stream⟩

/-- The first of some handlers is a given one with its file in its place, and the others are elsewhere. -/
def Leads (disk : Disk) (handler : Handler) : List OpenHandler → Prop
  | [] => False
  | first :: others => first.toHandler = handler ∧ (∃ id, InPlace ⟨first, disk⟩ id) ∧
      ∀ other ∈ others, IsElsewhere disk handler.file other

theorem Leads.spares {handler : Handler} {handlers : List OpenHandler} {after : Disk}
    (leads : Leads disk handler handlers) (spares : Spares handler.file disk after) :
    Leads after handler handlers := by
  cases handlers with
  | nil => exact leads
  | cons first others =>
    obtain ⟨rfl, ⟨id, inPlace⟩, elsewhere⟩ := leads
    exact ⟨rfl, ⟨id, inPlace.spares spares⟩, fun other member => (elsewhere other member).spares spares⟩

/-! ## Lines -/

variable {isHalf : Char → Bool}

/-- A text is lost that no file can hold, or that makes a file too large which cannot be moved on. -/
def IsLost (isHalf : Char → Bool) (disk : Disk) (handler : Handler) (text : String) : Prop :=
  text.toList.any isHalf = true ∨
    (0 < handler.maxBytes ∧ ∃ id, disk.found? handler.file = some (.file id) ∧
      handler.maxBytes ≤ (disk.content id).utf8ByteSize + text.length) ∧
    disk.IsBlocked handler.file handler.backupCount

/-- Handlers elsewhere leave a place alone. -/
theorem spares_deliver {handlers : List OpenHandler} (elsewhere : ∀ handler ∈ handlers, IsElsewhere disk place handler)
    (isHalf : Char → Bool) (name : String) (stamp : Stamp) (line : Line) :
    Spares place disk (deliver isHalf name stamp line handlers disk).2 ∧
      ∀ handler ∈ (deliver isHalf name stamp line handlers disk).1,
        IsElsewhere (deliver isHalf name stamp line handlers disk).2 place handler :=
  deliver_induction (fun disk handler => IsElsewhere disk place handler) (Spares place) isHalf name stamp line
    (.refl place) .trans (fun spares elsewhere => elsewhere.spares spares)
    (fun text elsewhere => spares_emit elsewhere isHalf text) handlers disk elsewhere

/-- What a place has after a line: the file that it had or a new one, with the text of the line unless it is lost. -/
structure Receives (isHalf : Char → Bool) (disk after : Disk) (handler : Handler) (text : String) (file : Nat) :
    Prop where
  there : after.found? handler.file = some (.file file)
  fresh : disk.found? handler.file = some (.file file) ∨ disk.contents.length ≤ file
  lost : IsLost isHalf disk handler text → after.content file = disk.content file
  kept : ¬IsLost isHalf disk handler text → after.content file = disk.content file ++ text

theorem Receives.spares {handler : Handler} {text : String} {file : Nat} {between after : Disk}
    (receives : Receives isHalf disk between handler text file) (spares : Spares handler.file between after) :
    Receives isHalf disk after handler text file where
  there := (spares.file file).mpr receives.there
  fresh := receives.fresh
  lost told := (spares.content file receives.there).trans (receives.lost told)
  kept told := (spares.content file receives.there).trans (receives.kept told)

private theorem receives_emit {handler : OpenHandler} {id count : Nat} (counted : handler.backupCount = count + 2)
    (short : HasShortBackups handler.file (count + 2)) (inPlace : InPlace ⟨handler, disk⟩ id)
    (isHalf : Char → Bool) (text : String) :
    ∃ file, InPlace (emit isHalf text ⟨handler, disk⟩) file ∧
      Receives isHalf disk (emit isHalf text ⟨handler, disk⟩).disk handler.toHandler text file := by
  have there := inPlace.stands.entry inPlace.straight
  have lost_iff : IsLost isHalf disk handler.toHandler text ↔ text.toList.any isHalf = true ∨
      IsFull ⟨handler, disk⟩ id text ∧ disk.IsBlocked handler.file (count + 2) := by
    have full : (0 < handler.maxBytes ∧ ∃ id, disk.found? handler.file = some (.file id) ∧
        handler.maxBytes ≤ (disk.content id).utf8ByteSize + text.length) ↔ IsFull ⟨handler, disk⟩ id text := by
      refine and_congr_right fun _ => ⟨?_, fun large => ⟨id, there, large⟩⟩
      rintro ⟨other, found, large⟩
      obtain rfl : other = id := DiskEntry.file.inj (Option.some.inj (found.symm.trans there))
      exact large
    rw [IsLost, full, counted]
  obtain ⟨file, still, fresh, lost, kept⟩ := emit_inPlace counted short inPlace isHalf text
  have same : (emit isHalf text ⟨handler, disk⟩).handler.file = handler.file :=
    congrArg Handler.file (toHandler_emit isHalf text ⟨handler, disk⟩)
  refine ⟨file, still, ?_, ?_, fun told => lost (lost_iff.mp told), fun told => kept (mt lost_iff.mpr told)⟩
  · rw [← same]
    exact still.stands.entry still.straight
  · rcases fresh with rfl | new
    · exact .inl there
    · exact .inr new

/-- A line that a logger lets through goes to the place of its first handler, and that handler still leads. -/
theorem leads_deliver {handler : Handler} {handlers : List OpenHandler} {count : Nat}
    (counted : handler.backupCount = count + 2) (short : HasShortBackups handler.file (count + 2))
    (unset : handler.threshold = .unset) (within : ∀ other ∈ handlers, IsWithin ⟨other, disk⟩)
    (leads : Leads disk handler handlers) (isHalf : Char → Bool) (name : String) (stamp : Stamp) (line : Line) :
    ∃ file, Receives isHalf disk (deliver isHalf name stamp line handlers disk).2 handler
        (handler.layout.write name stamp line) file ∧
      Leads (deliver isHalf name stamp line handlers disk).2 handler
        (deliver isHalf name stamp line handlers disk).1 := by
  cases handlers with
  | nil => exact leads.elim
  | cons first others =>
    obtain ⟨rfl, ⟨id, inPlace⟩, elsewhere⟩ := leads
    rw [List.forall_mem_cons] at within
    have reached : line.level.reaches first.threshold = true := by
      rw [unset]
      cases line.level <;> rfl
    have wrote : deliverOne isHalf name stamp line ⟨first, disk⟩ =
        emit isHalf (first.layout.write name stamp line) ⟨first, disk⟩ := if_pos reached
    obtain ⟨file, still, receives⟩ :=
      receives_emit counted short inPlace isHalf (first.layout.write name stamp line)
    have same := toHandler_emit isHalf (first.layout.write name stamp line) ⟨first, disk⟩
    obtain ⟨spares, there⟩ := spares_deliver
      (fun other member => (elsewhere other member).replaced (within.2 other member) receives.there receives.fresh)
      isHalf name stamp line
    rw [deliver_cons, wrote]
    refine ⟨file, receives.spares spares, same, ⟨file, ?_⟩, there⟩
    have file_eq : (emit isHalf (first.layout.write name stamp line) ⟨first, disk⟩).handler.file = first.file :=
      congrArg Handler.file same
    exact still.spares (file_eq ▸ spares)

/-! ## Loggers -/

/-- The file of a part is never in the way of the files that all loggers share, and its backups have short names. -/
structure IsSeparate (name : String) (component : Option String) : Prop where
  short : ∀ journal : Journal, HasShortBackups (journal.partFor name component).file 5
  aside : ∀ journal : Journal, ∀ handler ∈ journal.sharedFor,
    IsApart handler.file (journal.partFor name component).file

/-- No logger was refused so far, and since the configuration was changed last none was handed out for another name or
component with its file in the way. -/
structure IsSole (past : List Event) (journal : Journal) (name : String) (component : Option String) : Prop where
  granted : ∀ other part, .refused other part ∉ past
  apart : ∀ other part, .handedOut other part ∈ recent past → (other, part) = (name, component) ∨
    IsApart (journal.partFor other part).file (journal.partFor name component).file

/-- A logger was handed out for a name and a component before it was for any others. -/
def IsFirst (past : List Event) (name : String) (component : Option String) : Prop :=
  firstPair? past (loggerKey name component) = some (name, component)

/-- A logger that was handed out for a name and a component first has its file to itself. -/
structure Keeps (past : List Event) (journal : Journal) (name : String) (component : Option String) : Prop where
  others : ∀ key logger, journal.logger? key = some logger →
    key = loggerKey name component ∧ IsFirst past name component ∨
      ∀ handler ∈ logger.handlers, IsElsewhere journal.disk (journal.partFor name component).file handler
  own : IsFirst past name component → ∃ logger, journal.logger? (loggerKey name component) = some logger ∧
    Leads journal.disk (journal.partFor name component) logger.handlers

/-- What happens elsewhere leaves a logger its file. -/
theorem Keeps.spares {extended : List Event} (keeps : Keeps past journal name component)
    (continues : Continues journal later)
    (spares : Spares (journal.partFor name component).file journal.disk later.disk)
    (first : IsFirst extended name component ↔ IsFirst past name component)
    (known : ∀ key, later.logger? key = journal.logger? key ∨
      ¬(key = loggerKey name component ∧ IsFirst past name component) ∧
        ∀ logger, later.logger? key = some logger → ∀ handler ∈ logger.handlers,
          IsElsewhere later.disk (journal.partFor name component).file handler) :
    Keeps extended later name component := by
  constructor
  · intro key logger found
    rw [continues.partFor, first]
    rcases known key with same | ⟨-, elsewhere⟩
    · refine (keeps.others key logger (same ▸ found)).imp_right fun elsewhere handler member => ?_
      exact (elsewhere handler member).spares spares
    · exact .inr (elsewhere logger found)
  · intro asked
    obtain ⟨logger, found, leads⟩ := keeps.own (first.mp asked)
    rw [continues.partFor]
    rcases known (loggerKey name component) with same | ⟨foreign, -⟩
    · exact ⟨logger, same.trans found, leads.spares spares⟩
    · exact absurd ⟨rfl, first.mp asked⟩ foreign

theorem Keeps.write (keeps : Keeps past journal name component) (separate : IsSeparate name component)
    (within : Within journal) (key : String) (stamp : Stamp) (line : Line) :
    Keeps past (journal.write key stamp line) name component := by
  have continues := continues_write journal key stamp line
  rcases write_cases journal key stamp line with same | ⟨logger, known, heard⟩
  · rwa [same]
  · by_cases own : key = loggerKey name component ∧ IsFirst past name component
    · obtain ⟨rfl, first⟩ := own
      -- The logger itself: its file may be a new one afterwards, which no other handler has open.
      obtain ⟨_, same, leads⟩ := keeps.own first
      obtain rfl := Option.some.inj (known.symm.trans same)
      obtain ⟨file, receives, leading⟩ :=
        leads_deliver rfl (separate.short journal) rfl (within _ logger known) leads journal.machine.isHalf
          (loggerPreamble ++ loggerKey name component) stamp line
      constructor
      · intro other found there
        rw [continues.partFor]
        rw [logger?_write_of_heard known heard] at there
        split at there
        next same => exact .inl ⟨same, first⟩
        next differ =>
          rcases keeps.others other found there with ⟨same, -⟩ | elsewhere
          · exact absurd same differ
          · rw [write_of_heard known heard]
            refine .inr fun handler member => ?_
            have inside := within other found there handler member
            exact (elsewhere handler member).replaced inside receives.there receives.fresh
      · intro _
        rw [continues.partFor]
        refine ⟨_, (logger?_write_of_heard known heard stamp _).trans (if_pos rfl), ?_⟩
        rw [write_of_heard known heard]
        exact leading
    · obtain ⟨spares, there⟩ := spares_deliver ((keeps.others key logger known).resolve_left own)
        journal.machine.isHalf (loggerPreamble ++ key) stamp line
      have disk : (journal.write key stamp line).disk = (deliver journal.machine.isHalf (loggerPreamble ++ key) stamp
          line logger.handlers journal.disk).2 := by
        rw [write_of_heard known heard]
      refine keeps.spares continues (disk ▸ spares) .rfl fun other => ?_
      rw [logger?_write_of_heard known heard, disk]
      split
      next same => exact .inr ⟨same ▸ own, fun _ told => Option.some.inj told ▸ there⟩
      next => exact .inl rfl

/-- A line that is let through goes into the file of its logger, unless it is lost. -/
theorem Keeps.receives {logger : Logger} {line : Line} (keeps : Keeps past journal name component)
    (separate : IsSeparate name component) (within : Within journal) (first : IsFirst past name component)
    (known : journal.logger? (loggerKey name component) = some logger)
    (heard : line.level.reaches logger.level = true) (stamp : Stamp) :
    let handler := journal.partFor name component
    ∃ file, Receives journal.machine.isHalf journal.disk (journal.write (loggerKey name component) stamp line).disk
      handler (handler.layout.write (loggerPreamble ++ loggerKey name component) stamp line) file := by
  obtain ⟨_, same, leads⟩ := keeps.own first
  obtain rfl := Option.some.inj (known.symm.trans same)
  obtain ⟨file, receives, -⟩ := leads_deliver rfl (separate.short journal) rfl (within _ logger known) leads
    journal.machine.isHalf (loggerPreamble ++ loggerKey name component) stamp line
  rw [write_of_heard known heard]
  exact ⟨file, receives⟩

/-! ## Requests -/

theorem spares_attach {handlers : List Handler} (apart : ∀ handler ∈ handlers, IsApart handler.file place)
    (journal : Journal) (key : String) : Spares place journal.disk (journal.attach key handlers).1.disk := by
  induction journal, handlers using attach_induction key with
  | none journal => exact .refl place journal.disk
  | refused journal handler handlers problem failed =>
    rw [attach_refused failed]
    exact .refl place journal.disk
  | opened journal handler handlers disk id found ih =>
    rw [List.forall_mem_cons] at apart
    rw [attach_cons found]
    have differ : handler.file ≠ place := fun same => apart.1.itself (same ▸ List.prefix_rfl)
    exact (spares_openFile differ found).trans (ih apart.2)

/-- A request for a logger that is current changes nothing. -/
theorem isFirst_append_again {other : String} {part : Option String}
    (asked : (firstPair? past (loggerKey other part)).isSome = true) :
    IsFirst (past ++ [.handedOut other part]) name component ↔ IsFirst past name component := by
  rw [IsFirst, IsFirst, firstPair?_append (by simp), Event.pairFor?]
  split
  next same => rw [← same, Option.or_of_isSome asked]
  next => rw [Option.or_none]

private theorem isFirst_append_other {other : String} {part : Option String}
    (unasked : firstPair? past (loggerKey other part) = none) (differ : (other, part) ≠ (name, component)) :
    IsFirst (past ++ [.handedOut other part]) name component ↔ IsFirst past name component := by
  rw [IsFirst, IsFirst, firstPair?_append (by simp), Event.pairFor?]
  split
  next same =>
    rw [← same, unasked, Option.none_or]
    exact iff_of_false (fun told => differ (Option.some.inj told)) (Option.some_ne_none _).symm
  next => rw [Option.or_none]

/-- A logger that is handed out for another name or component has its files elsewhere. -/
theorem Keeps.handOut_other {other : String} {part : Option String} (keeps : Keeps past journal name component)
    (separate : IsSeparate name component)
    (apart : IsApart (journal.partFor other part).file (journal.partFor name component).file)
    (unasked : firstPair? past (loggerKey other part) = none) (differ : (other, part) ≠ (name, component))
    (attached : (journal.prepared other part).attach (loggerKey other part) (journal.handlersFor other part) =
      (later, .ok ())) : Keeps (past ++ [.handedOut other part]) later name component := by
  have continues := continues_attached journal other part (journal.handlersFor other part)
  have kept {key : String} (foreign : key ≠ loggerKey other part) :=
    logger?_attached journal foreign (journal.handlersFor other part)
  have away : ∀ handler ∈ journal.handlersFor other part,
      IsApart handler.file (journal.partFor name component).file := by
    rw [handlersFor_eq]
    exact List.forall_mem_cons.mpr ⟨apart, separate.aside journal⟩
  have spares := (spares_prepared journal other part _).trans
    (spares_attach away (journal.prepared other part) (loggerKey other part))
  rw [attached] at continues kept spares
  obtain ⟨opened, same, made, there⟩ := opened_attached attached
  have elsewhere : ∀ handler ∈ opened, IsElsewhere later.disk (journal.partFor name component).file handler := by
    intro handler member
    have listed : handler.toHandler ∈ journal.handlersFor other part := same ▸ List.mem_map_of_mem member
    exact (there handler member).isElsewhere (straight_handlersFor journal other part _ listed) (away _ listed)
  refine keeps.spares continues spares (isFirst_append_other unasked differ) fun key => ?_
  by_cases here : key = loggerKey other part
  · subst here
    refine .inr ⟨fun ⟨same, first⟩ => ?_, fun logger found => ?_⟩
    · rw [IsFirst, ← same, unasked] at first
      cases first
    · rw [← Option.some.inj (made.symm.trans found)]
      exact elsewhere
  · exact .inl (kept here)

/-- A logger that is handed out now leads with the handler for its part, and what was elsewhere is still there. -/
theorem leads_attached (separate : IsSeparate name component)
    (attached : (journal.prepared name component).attach (loggerKey name component)
      (journal.handlersFor name component) = (later, .ok ())) :
    (∃ logger, later.logger? (loggerKey name component) = some logger ∧
      Leads later.disk (journal.partFor name component) logger.handlers) ∧
    ∀ handler, IsWithin ⟨handler, journal.disk⟩ →
      IsElsewhere journal.disk (journal.partFor name component).file handler →
      IsElsewhere later.disk (journal.partFor name component).file handler := by
  obtain ⟨opened, same, made, there⟩ := opened_attached attached
  have straight := straight_handlersFor journal name component
  rw [handlersFor_eq] at same straight attached
  rw [List.forall_mem_cons] at straight
  obtain ⟨first, others, rfl, leading, shared⟩ := List.map_eq_cons_iff.mp same
  rw [List.forall_mem_cons] at there
  have started := spares_prepared journal name component (journal.partFor name component).file
  cases found : (journal.prepared name component).disk.openFile (journal.partFor name component).file with
  | error problem =>
    rw [attach_refused found] at attached
    cases attached
  | ok opening =>
    obtain ⟨disk, id⟩ := opening
    rw [attach_cons found] at attached
    have spares := spares_attach (separate.aside journal)
      ((journal.prepared name component).equip (loggerKey name component) disk
        ⟨journal.partFor name component, some id⟩) (loggerKey name component)
    rw [attached] at spares
    have stands : disk.Stands (journal.partFor name component).file id := stands_openFile straight.1 found
    have settled : later.disk.Stands (journal.partFor name component).file id := stands.spares straight.1 spares
    refine ⟨⟨_, made, leading, ⟨id, ?_⟩, fun other member => ?_⟩, fun handler within elsewhere => ?_⟩
    · have file : first.file = (journal.partFor name component).file := congrArg Handler.file leading
      obtain ⟨held, stream, entry⟩ := there.1
      rw [file] at entry
      have same : held = id := DiskEntry.file.inj (Option.some.inj (entry.symm.trans (settled.entry straight.1)))
      rw [same] at stream
      have there : ".." ∉ first.file ∧ later.disk.Stands first.file id := by
        rw [file]
        exact ⟨straight.1, settled⟩
      exact ⟨there.1, there.2, .inr stream⟩
    · have listed : other.toHandler ∈ journal.sharedFor := shared ▸ List.mem_map_of_mem member
      exact (there.2 other member).isElsewhere (straight.2 _ listed) (separate.aside journal _ listed)
    · -- The file at the place may be a new one, but the handler had its file open before.
      have inside : IsWithin ⟨handler, (journal.prepared name component).disk⟩ :=
        fun file held => Nat.lt_of_lt_of_le (within file held) started.grown
      have fresh : (journal.prepared name component).disk.found? (journal.partFor name component).file =
          some (.file id) ∨ (journal.prepared name component).disk.contents.length ≤ id := by
        rcases openFile_ok found with ⟨rfl, -⟩ | ⟨-, rfl, -⟩
        · exact .inl (stands.entry straight.1)
        · exact .inr (Nat.le_refl _)
      exact ((elsewhere.spares started).replaced inside (stands.entry straight.1) fresh).spares spares

theorem Keeps.handOut (keeps : Keeps past journal name component) (separate : IsSeparate name component)
    (within : Within journal) (unasked : firstPair? past (loggerKey name component) = none)
    (attached : (journal.prepared name component).attach (loggerKey name component)
      (journal.handlersFor name component) = (later, .ok ())) :
    Keeps (past ++ [.handedOut name component]) later name component := by
  have continues := continues_attached journal name component (journal.handlersFor name component)
  have kept {key : String} (foreign : key ≠ loggerKey name component) :=
    logger?_attached journal foreign (journal.handlersFor name component)
  rw [attached] at continues kept
  obtain ⟨own, still⟩ := leads_attached separate attached
  have first : IsFirst (past ++ [.handedOut name component]) name component := by
    rw [IsFirst, firstPair?_append (by simp), unasked, Option.none_or]
    exact if_pos rfl
  constructor
  · intro key logger found
    rw [continues.partFor]
    by_cases here : key = loggerKey name component
    · exact .inl ⟨here, first⟩
    · rw [kept here] at found
      rcases keeps.others key logger found with ⟨same, -⟩ | elsewhere
      · exact absurd same here
      · refine .inr fun handler member => still handler ?_ (elsewhere handler member)
        exact within key logger found handler member
  · intro _
    rw [continues.partFor]
    exact own

theorem Keeps.request {other : String} {part : Option String} (keeps : Keeps past journal name component)
    (separate : IsSeparate name component) (standing : ∀ key, Standing past journal key) (within : Within journal)
    (sole : IsSole (past ++ (journal.eventOf? (.request other part)).toList) (journal.request other part).1
      name component) :
    Keeps (past ++ (journal.eventOf? (.request other part)).toList) (journal.request other part).1 name component := by
  rw [eventOf?] at sole ⊢
  by_cases current : loggerKey other part ∈ journal.current
  · rw [request_again current]
    exact keeps.spares (.refl journal) (.refl _ _)
      (isFirst_append_again ((standing (loggerKey other part)).current_iff.mp current)) fun _ => .inl rfl
  · have unasked : firstPair? past (loggerKey other part) = none :=
      Option.not_isSome_iff_eq_none.mp (mt (standing (loggerKey other part)).current_iff.mpr current)
    rcases request_anew current with ⟨later, attached, handedOut⟩ | ⟨handlers, problem, refused⟩
    · rw [handedOut] at sole ⊢
      have continues := continues_attached journal other part (journal.handlersFor other part)
      rw [attached] at continues
      suffices keeps : Keeps (past ++ [.handedOut other part]) later name component from
        ⟨keeps.others, keeps.own⟩
      by_cases same : (other, part) = (name, component)
      · obtain ⟨rfl, rfl⟩ := Prod.mk.inj same
        exact keeps.handOut separate within unasked attached
      · have listed : .handedOut other part ∈ recent (past ++ [.handedOut other part]) := by
          rw [recent_append (by simp)]
          exact List.mem_append_right _ (List.mem_singleton_self _)
        have apart := (sole.apart other part listed).resolve_left same
        have between : IsApart (later.partFor other part).file (later.partFor name component).file := apart
        rw [continues.partFor, continues.partFor] at between
        exact keeps.handOut_other separate between unasked same attached
    · rw [refused] at sole
      exact absurd (List.mem_append_right _ (List.mem_singleton_self _)) (sole.granted other part)

/-! ## Runs -/

theorem IsSole.before {event? : Option Event} (sole : IsSole (past ++ event?.toList) later name component)
    (other : event? ≠ some .configured)
    (same : ∀ other part, later.partFor other part = journal.partFor other part) :
    IsSole past journal name component := by
  have longer : recent past ⊆ recent (past ++ event?.toList) := by
    cases event? with
    | none => rw [Option.toList_none, List.append_nil]; exact List.Subset.refl _
    | some event =>
      rw [Option.toList_some, recent_append fun same => other (congrArg some same)]
      exact List.subset_append_left _ _
  constructor
  · exact fun other part member => sole.granted other part (List.mem_append_left _ member)
  · intro other part member
    have apart := sole.apart other part (longer member)
    rwa [same, same] at apart

private theorem partFor_request (journal : Journal) (name : String) (component : Option String) (other : String)
    (part : Option String) : (journal.request name component).1.partFor other part = journal.partFor other part := by
  by_cases current : loggerKey name component ∈ journal.current
  · rw [request_again current]
  · rcases request_anew current with ⟨later, attached, handedOut⟩ | ⟨handlers, problem, refused⟩
    · have continues := continues_attached journal name component (journal.handlersFor name component)
      rw [attached] at continues
      rw [handedOut]
      exact continues.partFor other part
    · rw [refused]
      exact (continues_attached journal name component handlers).partFor other part

/-- After a change of the configuration no logger has files, if none was refused. -/
theorem Keeps.configure {directory : Option String} {debug : Option Bool} (standing : ∀ key, Standing past journal key)
    (granted : ∀ other part, .refused other part ∉ past) (configured : journal.configure directory debug = .ok later)
    (name : String) (component : Option String) : Keeps (past ++ [.configured]) later name component := by
  have started (key : String) : firstPair? (past ++ [.configured]) key = none := by
    rw [firstPair?, recent_configured]
    rfl
  constructor
  · intro key logger found
    have after := (standing key).configure configured
    have absent : key ∉ later.current := by
      rw [after.current_iff, started]
      exact Bool.false_ne_true
    have unrefused : ¬RefusedLast (past ++ [.configured]) key := by
      intro last
      obtain ⟨other, part, member, -⟩ := mem_of_refusedLast last
      simp [granted] at member
    have bare := after.bare absent unrefused
    rw [handlerCount, found, Option.elim_some, List.length_eq_zero_iff] at bare
    exact .inr (by simp [bare])
  · intro first
    rw [IsFirst, started] at first
    cases first

theorem Keeps.step (before : IsSole past journal name component → Keeps past journal name component)
    (separate : IsSeparate name component) (standing : ∀ key, Standing past journal key) (within : Within journal)
    (step : Step) (sole : IsSole (past ++ (journal.eventOf? step).toList) (journal.step step).1 name component) :
    Keeps (past ++ (journal.eventOf? step).toList) (journal.step step).1 name component := by
  cases step with
  | setEnvironment changes =>
    have continues : Continues journal (journal.setEnvironment changes) := ⟨rfl, rfl, rfl, rfl⟩
    rw [eventOf?] at sole ⊢
    have keeps := before (sole.before (Option.some_ne_none _).symm continues.partFor)
    rw [Option.toList_none, List.append_nil]
    exact keeps.spares continues (.refl _ _) .rfl fun _ => .inl rfl
  | configure directory debug =>
    rw [eventOf?, Journal.step] at sole ⊢
    cases configured : journal.configure directory debug with
    | error problem =>
      rw [configured] at sole
      have keeps := before (sole.before (Option.some_ne_none _).symm fun _ _ => rfl)
      rwa [Option.toList_none, List.append_nil]
    | ok later =>
      rw [configured] at sole
      exact Keeps.configure standing (fun other part member => sole.granted other part (List.mem_append_left _ member))
        configured name component
  | request other part =>
    have asked : journal.eventOf? (.request other part) ≠ some .configured := by
      rw [eventOf?]
      split
      next => simp
      next => simp
    exact (before (sole.before asked (partFor_request journal other part))).request separate standing within sole
  | write key stamp line =>
    have continues := continues_write journal key stamp line
    rw [eventOf?] at sole ⊢
    have keeps := before (sole.before (Option.some_ne_none _).symm continues.partFor)
    rw [Option.toList_none, List.append_nil]
    exact keeps.write separate within key stamp line

private theorem keeps_run (separate : IsSeparate name component) (steps : List Step)
    (before : IsSole past journal name component → Keeps past journal name component)
    (standing : ∀ key, Standing past journal key) (within : Within journal)
    (sole : IsSole (past ++ journal.events steps) (journal.run steps) name component) :
    Keeps (past ++ journal.events steps) (journal.run steps) name component := by
  induction steps generalizing past journal with
  | nil =>
    rw [events, List.append_nil] at sole ⊢
    exact before sole
  | cons step steps ih =>
    rw [events, ← List.append_assoc, Journal.run, List.foldl_cons] at sole ⊢
    exact ih (Keeps.step before separate standing within step) (fun key => (standing key).step step)
      (within.step step) sole

/-- In any use of a journal without loggers, the logger that was handed out for a name and a component first since the
configuration was changed last has its file to itself, as long as no logger is refused and no other has its file in the
way. -/
theorem keeps_of_sole {start : Journal} (fresh : IsFresh start) (separate : IsSeparate name component)
    (steps : List Step) (sole : IsSole (start.events steps) (start.run steps) name component) :
    Keeps (start.events steps) (start.run steps) name component := by
  refine @keeps_run start [] name component separate steps (fun _ => ⟨?_, nofun⟩) fresh.standing fresh.within sole
  intro key logger known
  rw [logger?, fresh.loggers] at known
  cases known

end QueryGate.Journal
