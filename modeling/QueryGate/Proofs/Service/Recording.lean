import QueryGate.Report
import QueryGate.Service
import QueryGate.Proofs.Journal.Keeping
import QueryGate.Proofs.Registry.Names
/-!
Whether a rejected filter is recorded. A parser keeps the logger that it asked for when it was made, and a change of
the configuration takes the files away from that logger. So what a parser rejects is recorded in the file of its
component if the logger was handed out to a parser since the configuration was changed last, and otherwise it is lost,
however long the parser has been there. What is recorded can still be lost to the file itself, which is moved on when
it gets too large.
-/

namespace QueryGate.Service

open QueryGate.Filter QueryGate.Journal

/-! ## Steps in the journal -/

private theorem writeAll_eq_run (journal : Journal) (key : String) (stamps : Nat → Stamp) (lines : List Line) :
    journal.writeAll key stamps lines =
      journal.run (lines.mapIdx fun count line => .write key (stamps count) line) := by
  induction lines generalizing journal stamps with
  | nil => rfl
  | cons line lines ih =>
    rw [writeAll, ih, List.mapIdx_cons]
    rfl

private theorem run_inJournal (journal : Journal) (steps : List Step) :
    run journal steps = journal.run (steps.flatMap Step.inJournal) := by
  have each (journal : Journal) (step : Step) : Service.step journal step = journal.run step.inJournal := by
    cases step with
    | journal step => rfl
    | makeParser registry depthLimit => rfl
    | parse parser stamps filter => exact writeAll_eq_run journal Parser.key stamps _
  induction steps generalizing journal with
  | nil => rfl
  | cons step steps ih =>
    rw [run, List.foldl_cons, ← run, ih, each, List.flatMap_cons, Journal.run, Journal.run, Journal.run,
      List.foldl_append]

/-- What every line through a logger leaves as it is, lines together leave too. -/
theorem writeAll_induction {motive : Journal → Prop} {key : String}
    (step : ∀ journal stamp line, motive journal → motive (journal.write key stamp line)) {journal : Journal}
    (start : motive journal) (stamps : Nat → Stamp) (lines : List Line) :
    motive (journal.writeAll key stamps lines) := by
  induction lines generalizing journal stamps with
  | nil => exact start
  | cons line lines ih => exact ih (step journal _ line start) _

private theorem writeAll_append (journal : Journal) (key : String) (stamps : Nat → Stamp) (lines : List Line)
    (line : Line) :
    journal.writeAll key stamps (lines ++ [line]) =
      (journal.writeAll key stamps lines).write key (stamps lines.length) line := by
  induction lines generalizing journal stamps with
  | nil => rfl
  | cons other lines ih =>
    rw [List.cons_append, writeAll, ih]
    rfl

/-! ## What is said about a rejection -/

def rejectionLine (registry : Registry) (report : Report) : Line :=
  ⟨.warning, "Rejected " ++ registry.entity ++ " filter: " ++ report.message⟩

variable {registry : Registry} {depthLimit filter : Value} {rejection : Rejection} {report : Report}

private theorem message_of_report (reported : rejection.report? = some report) :
    rejection.message? = some report.message := by
  cases rejection with
  | unknownProperty name => exact (Option.some.inj reported) ▸ rfl
  | disallowedOperator key => exact (Option.some.inj reported) ▸ rfl
  | flaw problem trail =>
    obtain ⟨detail, told, rest⟩ := Option.bind_eq_some_iff.mp reported
    obtain ⟨label, labelled, rest⟩ := Option.bind_eq_some_iff.mp rest
    obtain ⟨place, placed, rest⟩ := Option.bind_eq_some_iff.mp rest
    have shown : (shownLabel label).plain? = some place := by
      rw [← placed, shownLabel]
      change _ = (if label.isVacant = true then Value.text rootLabel else Value.atom label).plain?
      split <;> rfl
    rw [Rejection.message?, Rejection.reason?, Trail.shown?, told, labelled]
    simp only [Option.map_some, Option.bind_eq_bind, Option.bind_some, shown]
    exact congrArg some (congrArg Report.message (Option.some.inj rest))
  | foreignKey key => cases reported
  | foreignSort sort => cases reported
  | foreignLimit limit => cases reported
  | overlongName name => cases reported

private theorem rejectionLine_of_report (reported : rejection.report? = some report) :
    rejectionLine? registry rejection = some (rejectionLine registry report) := by
  rw [rejectionLine?, message_of_report reported]
  rfl

/-- A rejection is told last. -/
theorem parseLines_rejected (rejected : Filter.parse registry depthLimit filter = .error rejection)
    (reported : rejection.report? = some report) :
    parseLines registry depthLimit filter =
      renamingLines registry depthLimit filter ++ [rejectionLine registry report] := by
  rw [parseLines, rejected]
  exact congrArg (fun told : Option Line => _ ++ told.toList) (rejectionLine_of_report reported)

/-! ## The file of the component -/

def recordHandler (journal : Journal) : Handler where
  file := journal.placeOf ["filters", "filterparser.log"]
  threshold := .unset
  layout := if journal.debugMode then .located else .plain
  maxBytes := 10485760
  backupCount := 5

theorem parser_partFor (journal : Journal) :
    journal.partFor Parser.loggerName (some Parser.component) = recordHandler journal := by
  have named : Text.lower Parser.loggerName ++ ".log" = "filterparser.log" := by decide +kernel
  rw [partFor, named]
  rfl

theorem file_recordHandler (journal : Journal) : (recordHandler journal).file =
    journal.directory.place journal.machine.work ++ "filters" :: ["filterparser.log"] := by
  have part : Route.ofText "filters" = ⟨"", ["filters"]⟩ := by decide +kernel
  have file : Route.ofText "filterparser.log" = ⟨"", ["filterparser.log"]⟩ := by decide +kernel
  change ((journal.directory.join "filters").join "filterparser.log").place journal.machine.work = _
  rw [Route.place_join file (by decide), Route.place_join part (by decide), List.append_assoc]
  rfl

/-- Files of one directory are not in the way of those in another whose name starts with another letter. -/
theorem isApart_beside {above names : Path} {last first : String} (stated : last.toList ≠ [])
    (differ : last.toList.head? ≠ first.toList.head?) :
    Disk.IsApart (above ++ [last]) (above ++ first :: names) := by
  have starts {name : String} (inside : above ++ [last ++ name] <+: above ++ first :: names) : False := by
    have same := (List.cons_prefix_cons.mp ((List.prefix_append_right_inj above).mp inside)).1
    refine differ ?_
    rw [← same, String.toList_append, List.head?_append_of_ne_nil _ stated]
  constructor
  · intro number inside
    rw [Disk.backup, List.dropLast_concat, List.getLastD_concat, String.append_assoc] at inside
    exact starts inside
  · intro inside
    have same : last ++ "" = last := String.append_empty
    exact starts (same ▸ inside)

theorem parser_isSeparate : IsSeparate Parser.loggerName (some Parser.component) where
  short journal := by
    have each : ∀ number ≤ 5, FileName.isLong ("filterparser.log" ++ "." ++ toString number) = false := by
      decide +kernel
    intro number less
    rw [parser_partFor, file_recordHandler, ← List.singleton_append, ← List.append_assoc, Disk.backup,
      List.getLastD_concat, List.getLastD_concat]
    exact each number less
  aside journal := by
    have beside (name : String) (single : Route.ofText name = ⟨"", [name]⟩) (named : name ≠ "..")
        (stated : name.toList ≠ []) (differ : name.toList.head? ≠ "filters".toList.head?) :
        Disk.IsApart (journal.placeOf [name]) (recordHandler journal).file := by
      rw [file_recordHandler]
      change Disk.IsApart ((journal.directory.join name).place journal.machine.work) _
      rw [Route.place_join single named]
      exact isApart_beside stated differ
    have errors := beside "error.log" (by decide +kernel) (by decide) (by decide) (by decide)
    have debugs := beside "debug.log" (by decide +kernel) (by decide) (by decide) (by decide)
    intro handler member
    rw [parser_partFor]
    rw [sharedFor, List.mem_append, List.mem_singleton] at member
    rcases member with debug | rfl
    · split at debug
      next =>
        obtain rfl := List.mem_singleton.mp debug
        exact debugs
      next => cases debug
    · exact errors

def recordText (journal : Journal) (stamp : Stamp) (line : Line) : String :=
  (recordHandler journal).layout.write "docquery.filters.FilterParser" stamp line

/-- A text went into the file of the component, behind what the file held before. -/
def Recorded (journal later : Journal) (text : String) : Prop :=
  ∃ id, later.disk.found? (recordHandler journal).file = some (.file id) ∧
    later.disk.content id = journal.disk.content id ++ text

/-- The file of the component cannot take a text. -/
def LosesRecord (journal : Journal) (text : String) : Prop :=
  IsLost journal.machine.isHalf journal.disk (recordHandler journal) text

theorem write_ne_self (layout : Journal.Layout) (name : String) (stamp : Stamp) (line : Line) (text : String) :
    text ++ layout.write name stamp line ≠ text := by
  intro same
  have lengths := congrArg String.length same
  have dashes : " - ".length = 3 := rfl
  cases layout <;> simp only [Journal.Layout.write, String.length_append, dashes] at lengths <;> omega

theorem not_recorded_of_disk {journal later : Journal} (same : later.disk = journal.disk) (stamp : Stamp)
    (line : Line) : ¬Recorded journal later (recordText journal stamp line) := by
  rintro ⟨id, -, content⟩
  rw [same] at content
  exact write_ne_self _ _ _ _ _ content.symm

/-! ## Rejections -/

variable {journal : Journal} {parser : Parser} {past : List Event} {stamp : Stamp} {line : Line}

/-- A warning is recorded by a logger that has its file to itself, unless the file cannot take it. -/
theorem recorded_write_iff (within : Within journal)
    (keeps : Keeps past journal Parser.loggerName (some Parser.component))
    (ready : Ready journal Parser.loggerName (some Parser.component))
    (first : IsFirst past Parser.loggerName (some Parser.component)) (warning : line.level = .warning) :
    Recorded journal (journal.write Parser.key stamp line) (recordText journal stamp line) ↔
      ¬LosesRecord journal (recordText journal stamp line) := by
  obtain ⟨logger, known, -⟩ := keeps.own first
  have heard : line.level.reaches logger.level = true := by
    have level : logger.level = journal.level := by
      rw [Ready, known] at ready
      exact congrArg Prod.fst (Option.some.inj ready)
    rw [warning, level, Journal.level]
    split <;> rfl
  obtain ⟨file, receives⟩ := keeps.receives parser_isSeparate within first known heard stamp
  have preamble : loggerPreamble ++ loggerKey Parser.loggerName (some Parser.component) =
      "docquery.filters.FilterParser" := by
    decide +kernel
  rw [parser_partFor, preamble] at receives
  constructor
  · rintro ⟨id, there, content⟩ lost
    obtain rfl : id = file := DiskEntry.file.inj (Option.some.inj (there.symm.trans receives.there))
    exact write_ne_self _ _ _ _ _ (content.symm.trans (receives.lost lost))
  · exact fun kept => ⟨file, receives.there, receives.kept kept⟩

/-- What is said about parsing is lost while the logger is not current, unless it was refused when it was asked for
last. -/
theorem writeAll_unasked (standing : Standing past journal Parser.key) (unasked : firstPair? past Parser.key = none)
    (unrefused : ¬RefusedLast past Parser.key) (stamps : Nat → Stamp) (lines : List Line) :
    (journal.writeAll Parser.key stamps lines).disk = journal.disk ∧
      ∀ key, (journal.writeAll Parser.key stamps lines).logger? key = journal.logger? key := by
  have absent : Parser.key ∉ journal.current := by
    rw [standing.current_iff, unasked]
    nofun
  have bare := standing.bare absent unrefused
  refine writeAll_induction (motive := fun between => between.disk = journal.disk ∧
    ∀ key, between.logger? key = journal.logger? key) (fun between stamp line same => ?_) ⟨rfl, fun _ => rfl⟩
    stamps lines
  have still : between.handlerCount Parser.key = 0 := by
    rw [handlerCount, same.2]
    exact bare
  obtain ⟨disk, known⟩ := write_of_handlerCount still stamp line
  exact ⟨disk.trans same.1, fun key => (known key).trans (same.2 key)⟩

/-- Lines leave a logger that has its file to itself as it is. -/
private theorem keeps_writeAll (within : Within journal)
    (keeps : Keeps past journal Parser.loggerName (some Parser.component))
    (ready : Ready journal Parser.loggerName (some Parser.component)) (stamps : Nat → Stamp) (lines : List Line) :
    let later := journal.writeAll Parser.key stamps lines
    Within later ∧ Keeps past later Parser.loggerName (some Parser.component) ∧
      Ready later Parser.loggerName (some Parser.component) := by
  refine writeAll_induction (motive := fun between => Within between ∧
    Keeps past between Parser.loggerName (some Parser.component) ∧
    Ready between Parser.loggerName (some Parser.component)) (fun between stamp line still => ?_)
    ⟨within, keeps, ready⟩ stamps lines
  obtain ⟨within, keeps, ready⟩ := still
  exact ⟨within.write _ stamp line, keeps.write parser_isSeparate within _ stamp line,
    ready.continues (continues_write between _ stamp line) (settings_write between _ _ stamp line)⟩

/-- The journal is used in any way, with parsers made and filters parsed in between, and then a parser rejects a
filter. If nobody got the logger of parsers since the configuration was changed last, and it was not refused last, the
rejection leaves no trace. Otherwise suppose that no logger was refused and that none was handed out with its file in
the way. If a parser was the first to get the logger, then the rejection is recorded, unless the file cannot take it.
So as long as only parsers ask for the logger, a rejection that the file can take is recorded exactly if a parser was
made since the configuration was changed last. -/
theorem rejection_recorded {start : Journal} (fresh : IsFresh start) (steps : List Step) (parser : Parser)
    (stamps : Nat → Stamp) (filter : Value) (rejection : Rejection) (report : Report)
    (rejected : Filter.parse parser.registry parser.depthLimit filter = .error rejection)
    (reported : rejection.report? = some report) :
    let journal := run start steps
    let past := start.events (steps.flatMap Step.inJournal)
    let renamed := renamingLines parser.registry parser.depthLimit filter
    let between := journal.writeAll Parser.key stamps renamed
    let later := (parser.parse journal stamps filter).1
    let text := recordText between (stamps renamed.length) (rejectionLine parser.registry report)
    let made := Event.handedOut Parser.loggerName (some Parser.component)
    (firstPair? past Parser.key = none → ¬RefusedLast past Parser.key →
      later.disk = journal.disk ∧ (∀ key, later.logger? key = journal.logger? key) ∧ ¬Recorded between later text) ∧
    (IsSole past journal Parser.loggerName (some Parser.component) →
      (IsFirst past Parser.loggerName (some Parser.component) →
        (Recorded between later text ↔ ¬LosesRecord between text)) ∧
      ((∀ event ∈ past, event.key? = some Parser.key → event = made) →
        (Recorded between later text ↔ made ∈ recent past ∧ ¬LosesRecord between text))) := by
  intro journal past renamed between later text made
  have run_eq : journal = start.run (steps.flatMap Step.inJournal) := run_inJournal start steps
  have standing (key : String) : Standing past journal key := by
    rw [run_eq]
    exact (fresh.standing key).run _
  have later_eq : later = between.write Parser.key (stamps renamed.length) (rejectionLine parser.registry report) := by
    change journal.writeAll Parser.key stamps _ = _
    rw [parseLines_rejected rejected reported, writeAll_append]
  have lost (unasked : firstPair? past Parser.key = none) (unrefused : ¬RefusedLast past Parser.key) :
      later.disk = journal.disk ∧ (∀ key, later.logger? key = journal.logger? key) ∧
        ¬Recorded between later text := by
    have before := writeAll_unasked (standing Parser.key) unasked unrefused stamps renamed
    have after : later.disk = journal.disk ∧ ∀ key, later.logger? key = journal.logger? key :=
      writeAll_unasked (standing Parser.key) unasked unrefused stamps _
    exact ⟨after.1, after.2, not_recorded_of_disk (after.1.trans before.1.symm) _ _⟩
  have recorded (sole : IsSole past journal Parser.loggerName (some Parser.component))
      (first : IsFirst past Parser.loggerName (some Parser.component)) :
      Recorded between later text ↔ ¬LosesRecord between text := by
    have within : Within journal := by
      rw [run_eq]
      exact fresh.within.run _
    have keeps : Keeps past journal Parser.loggerName (some Parser.component) := by
      rw [run_eq] at sole ⊢
      exact keeps_of_sole fresh parser_isSeparate _ sole
    obtain ⟨within, keeps, ready⟩ :=
      keeps_writeAll within keeps ((standing Parser.key).ready _ _ first) stamps renamed
    rw [later_eq]
    exact recorded_write_iff within keeps ready first rfl
  refine ⟨lost, fun sole => ⟨recorded sole, fun only => ?_⟩⟩
  have asked := firstPair?_of_only only
  by_cases member : made ∈ recent past
  · rw [if_pos member] at asked
    rw [recorded sole asked]
    exact (and_iff_right member).symm
  · rw [if_neg member] at asked
    have unrefused : ¬RefusedLast past Parser.key := by
      intro last
      obtain ⟨name, component, refused, -⟩ := mem_of_refusedLast last
      exact sole.granted name component refused
    exact iff_of_false (lost asked unrefused).2.2 fun told => member told.1

/-- Once a parser is made after the configuration was changed, parsers made before record what they reject too. -/
theorem rejection_recorded_anew :
    let start := loneJournal "logs"
    let parser : Parser := ⟨Registry.ofFiles, .int 7⟩
    let filter : Value := .map [(.text "secret", .int 1)]
    let stamps : Nat → Stamp := fun count => ⟨"now", "parser.py", count, "parse"⟩
    let steps : List Step := [.makeParser parser.registry parser.depthLimit, .journal (.configure (some "other") none),
      .parse parser stamps filter, .makeParser Registry.ofFiles (.int 10)]
    let journal := run start steps
    let past := start.events (steps.flatMap Step.inJournal)
    let renamed := renamingLines parser.registry parser.depthLimit filter
    let between := journal.writeAll Parser.key stamps renamed
    let later := (parser.parse journal stamps filter).1
    let report := Report.rejection .unknownProperty (unknownReason "secret") [("property", .text "secret")]
    let text := recordText between (stamps renamed.length) (rejectionLine parser.registry report)
    IsFresh start ∧ Filter.parse parser.registry parser.depthLimit filter = .error (.unknownProperty "secret") ∧
      (Rejection.unknownProperty "secret").report? = some report ∧
      IsSole past journal Parser.loggerName (some Parser.component) ∧
      (recordHandler between).file = ["work", "other", "filters", "filterparser.log"] ∧
      Recorded between later text ∧ .handedOut Parser.loggerName (some Parser.component) ∈ recent past := by
  intro start parser filter stamps steps journal past renamed between later report text
  have fresh : IsFresh start := ⟨rfl, rfl⟩
  have rejected : Filter.parse parser.registry parser.depthLimit filter = .error (.unknownProperty "secret") := rfl
  have reported : (Rejection.unknownProperty "secret").report? = some report := rfl
  have happened : past = [.handedOut Parser.loggerName (some Parser.component), .configured,
      .handedOut Parser.loggerName (some Parser.component)] := by
    decide +kernel
  have only : ∀ event ∈ past, event.key? = some Parser.key →
      event = .handedOut Parser.loggerName (some Parser.component) := by
    rw [happened]
    decide
  have sole : IsSole past journal Parser.loggerName (some Parser.component) := by
    have lately : recent past = [.handedOut Parser.loggerName (some Parser.component)] := by
      rw [happened]
      decide
    constructor
    · rw [happened]
      simp
    · intro other part member
      rw [lately, List.mem_singleton] at member
      obtain ⟨rfl, rfl⟩ := Event.handedOut.inj member
      exact .inl rfl
  have kept : ¬LosesRecord between text := by
    have whole : text.toList.any between.machine.isHalf = false := by decide +kernel
    have unfilled : between.disk.found? (Disk.backup (recordHandler between).file 4) = none := by decide +kernel
    rintro (half | ⟨-, filled, -⟩)
    · rw [whole] at half
      cases half
    · exact filled unfilled
  have first : IsFirst past Parser.loggerName (some Parser.component) := by
    rw [IsFirst, happened]
    decide
  obtain ⟨-, taken⟩ := rejection_recorded fresh steps parser stamps filter _ _ rejected reported
  obtain ⟨recorded, exact⟩ := taken sole
  have there : Recorded between later text := (recorded first).mpr kept
  exact ⟨fresh, rejected, reported, sole, by decide +kernel, there, ((exact only).mp there).1⟩

/-- A parser that was made before the configuration was changed records nothing afterwards. -/
theorem rejection_lost_after_change :
    let start := loneJournal "logs"
    let parser : Parser := ⟨Registry.ofFiles, .int 7⟩
    let filter : Value := .map [(.text "secret", .int 1)]
    let stamps : Nat → Stamp := fun count => ⟨"now", "parser.py", count, "parse"⟩
    let steps : List Step := [.makeParser parser.registry parser.depthLimit, .journal (.configure (some "other") none)]
    let journal := run start steps
    let later := (parser.parse journal stamps filter).1
    let report := Report.rejection .unknownProperty (unknownReason "secret") [("property", .text "secret")]
    start.events (steps.flatMap Step.inJournal) = [.handedOut Parser.loggerName (some Parser.component), .configured] ∧
      Filter.parse parser.registry parser.depthLimit filter = .error (.unknownProperty "secret") ∧
      renamingLines parser.registry parser.depthLimit filter = [] ∧
      (recordHandler journal).file = ["work", "other", "filters", "filterparser.log"] ∧ later.disk = journal.disk ∧
      ¬Recorded journal later (recordText journal (stamps 0) (rejectionLine parser.registry report)) := by
  intro start parser filter stamps steps journal later report
  have bare : journal.handlerCount Parser.key = 0 := by decide +kernel
  have lines : parseLines parser.registry parser.depthLimit filter = [rejectionLine parser.registry report] := rfl
  have told : later = journal.write Parser.key (stamps 0) (rejectionLine parser.registry report) := by
    change journal.writeAll Parser.key stamps (parseLines parser.registry parser.depthLimit filter) = _
    rw [lines]
    rfl
  have lost : later.disk = journal.disk := by
    rw [told]
    exact (write_of_handlerCount bare _ _).1
  exact ⟨by decide +kernel, rfl, rfl, by decide +kernel, lost, not_recorded_of_disk lost _ _⟩

end QueryGate.Service
