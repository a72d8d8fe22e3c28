import QueryGate.Proofs.Journal.Lines
/-!
Loggers of a journal in use. Since the configuration was changed last, a logger is current exactly if it was
handed out, and then it has the level and the files that the configuration asks for, whoever asked for it first.
Any other logger has no files, unless it was refused when it was asked for last: then it keeps the files that
could be opened until then, and no change of the configuration takes them away.
-/

namespace QueryGate.Journal

open QueryGate.Journal.Output

/-! ## What happened -/

/-- What happens to a journal as far as it matters for its loggers: its configuration is changed, or a logger is
asked for. -/
inductive Event where
  | configured
  | handedOut (name : String) (component : Option String)
  | refused (name : String) (component : Option String)
deriving DecidableEq

def Event.key? : Event → Option String
  | .configured => none
  | .handedOut name component | .refused name component => some (loggerKey name component)

def Event.pairFor? (key : String) : Event → Option (String × Option String)
  | .handedOut name component => if loggerKey name component = key then some (name, component) else none
  | .configured | .refused .. => none

def eventOf? (journal : Journal) : Step → Option Event
  | .setEnvironment _ | .write .. => none
  | .configure directory debug => match journal.configure directory debug with
    | .ok _ => some .configured
    | .error _ => none
  | .request name component => match (journal.request name component).2 with
    | .ok _ => some (.handedOut name component)
    | .error _ => some (.refused name component)

def events (journal : Journal) : List Step → List Event
  | [] => []
  | step :: steps => (journal.eventOf? step).toList ++ (journal.step step).1.events steps

def recent (events : List Event) : List Event := (events.reverse.takeWhile (· ≠ .configured)).reverse

def firstPair? (events : List Event) (key : String) : Option (String × Option String) :=
  (recent events).findSome? (Event.pairFor? key)

def RefusedLast (events : List Event) (key : String) : Prop :=
  ∃ name component, (events.reverse.find? fun event => event.key? == some key) = some (.refused name component)

variable {past : List Event} {key : String} {name : String} {component : Option String}

theorem recent_configured (past : List Event) : recent (past ++ [.configured]) = [] := by
  rw [recent, List.reverse_append]
  rfl

theorem recent_append {event : Event} (other : event ≠ .configured) :
    recent (past ++ [event]) = recent past ++ [event] := by
  rw [recent, List.reverse_append, List.reverse_singleton, List.singleton_append,
    List.takeWhile_cons_of_pos (by simpa using other), List.reverse_cons, recent]

theorem firstPair?_append {event : Event} (other : event ≠ .configured) :
    firstPair? (past ++ [event]) key = (firstPair? past key).or (event.pairFor? key) := by
  rw [firstPair?, recent_append other, List.findSome?_append, firstPair?]
  simp only [List.findSome?_cons, List.findSome?_nil]
  cases event.pairFor? key <;> rfl

theorem refusedLast_append {event : Event} (other : event.key? ≠ some key) :
    RefusedLast (past ++ [event]) key ↔ RefusedLast past key := by
  rw [RefusedLast, RefusedLast, List.reverse_append, List.reverse_singleton, List.singleton_append,
    List.find?_cons_of_neg (by simpa using other)]

private theorem refusedLast_of_refused :
    RefusedLast (past ++ [.refused name component]) (loggerKey name component) := by
  refine ⟨name, component, ?_⟩
  rw [List.reverse_append, List.reverse_singleton, List.singleton_append, List.find?_cons_of_pos]
  simp [Event.key?]

private theorem eq_of_pairFor? {event : Event} (paired : event.pairFor? key = some (name, component)) :
    event = .handedOut name component ∧ loggerKey name component = key := by
  cases event with
  | handedOut other part =>
    rw [Event.pairFor?] at paired
    split at paired
    next same =>
      obtain ⟨rfl, rfl⟩ := Prod.mk.inj (Option.some.inj paired)
      exact ⟨rfl, same⟩
    next => cases paired
  | configured => cases paired
  | refused => cases paired

theorem handedOut_of_firstPair? (first : firstPair? past key = some (name, component)) :
    .handedOut name component ∈ recent past ∧ loggerKey name component = key := by
  obtain ⟨event, member, paired⟩ := List.exists_of_findSome?_eq_some first
  obtain ⟨rfl, same⟩ := eq_of_pairFor? paired
  exact ⟨member, same⟩

theorem firstPair?_isSome (member : .handedOut name component ∈ recent past) :
    (firstPair? past (loggerKey name component)).isSome = true := by
  refine Option.isSome_iff_ne_none.mpr fun unasked => ?_
  have never := List.findSome?_eq_none_iff.mp unasked _ member
  rw [Event.pairFor?, if_pos rfl] at never
  cases never

theorem mem_of_mem_recent {event : Event} (member : event ∈ recent past) : event ∈ past :=
  List.mem_reverse.mp ((List.takeWhile_sublist _).mem (List.mem_reverse.mp member))

/-- A key that only one name and component ask for is the key of that pair once the logger was handed out. -/
theorem firstPair?_of_only (only : ∀ event ∈ past, event.key? = some (loggerKey name component) →
      event = .handedOut name component) : firstPair? past (loggerKey name component) =
    if .handedOut name component ∈ recent past then some (name, component) else none := by
  cases asked : firstPair? past (loggerKey name component) with
  | none =>
    rw [if_neg]
    intro member
    have known := firstPair?_isSome member
    rw [asked] at known
    cases known
  | some pair =>
    obtain ⟨member, key⟩ := handedOut_of_firstPair? asked
    have same := only _ (mem_of_mem_recent member) (congrArg some key)
    obtain ⟨names, components⟩ := Event.handedOut.inj same
    rw [if_pos (same ▸ member)]
    exact congrArg some (Prod.ext names components)

theorem mem_of_refusedLast (last : RefusedLast past key) :
    ∃ name component, .refused name component ∈ past ∧ loggerKey name component = key := by
  obtain ⟨name, component, found⟩ := last
  refine ⟨name, component, List.mem_reverse.mp (List.mem_of_find?_eq_some found), ?_⟩
  simpa [Event.key?] using List.find?_some found

/-! ## The invariant -/

variable {journal later : Journal}

/-- How the logger of a key stands after what happened. -/
structure Standing (past : List Event) (journal : Journal) (key : String) : Prop where
  current_iff : key ∈ journal.current ↔ (firstPair? past key).isSome = true
  ready : ∀ name component, firstPair? past key = some (name, component) → Ready journal name component
  refused : key ∉ journal.current → journal.handlerCount key ≠ 0 → RefusedLast past key

theorem Standing.bare (standing : Standing past journal key) (absent : key ∉ journal.current)
    (unrefused : ¬RefusedLast past key) : journal.handlerCount key = 0 :=
  Decidable.byContradiction fun equipped => unrefused (standing.refused absent equipped)

theorem Standing.continues {extended : List Event} (standing : Standing past journal key)
    (continues : Continues journal later)
    (kept : (later.logger? key).map Logger.settings = (journal.logger? key).map Logger.settings)
    (first : firstPair? extended key = firstPair? past key)
    (refusal : RefusedLast past key → RefusedLast extended key) : Standing extended later key := by
  constructor
  · rw [continues.current, first]
    exact standing.current_iff
  · intro name component asked
    rw [first] at asked
    refine (standing.ready name component asked).continues continues ?_
    rwa [(handedOut_of_firstPair? asked).2]
  · intro absent equipped
    rw [continues.current] at absent
    rw [handlerCount_of_settings kept] at equipped
    exact refusal (standing.refused absent equipped)

/-- A request for another logger changes nothing for the logger of a key. -/
theorem Standing.append_other {event : Event} (standing : Standing past journal key)
    (continues : Continues journal later)
    (kept : later.logger? key = journal.logger? key) (asked : event.key? ≠ some key)
    (other : event ≠ .configured) : Standing (past ++ [event]) later key := by
  refine standing.continues continues (congrArg _ kept) ?_ (refusedLast_append asked).mpr
  have none : event.pairFor? key = none := by
    cases event with
    | handedOut name component => exact if_neg fun same => asked (congrArg some same)
    | configured => rfl
    | refused => rfl
  rw [firstPair?_append other, none, Option.or_none]

theorem Standing.configure {directory : Option String} {debug : Option Bool} (standing : Standing past journal key)
    (configured : journal.configure directory debug = .ok later) : Standing (past ++ [.configured]) later key := by
  have started : firstPair? (past ++ [.configured]) key = none := by
    rw [firstPair?, recent_configured]
    rfl
  rw [Journal.configure] at configured
  split at configured
  next => cases configured
  next =>
    obtain rfl := Except.ok.inj configured
    constructor
    · simp [started]
    · intro name component first
      rw [started] at first
      cases first
    · intro _ equipped
      have unasked : Event.configured.key? ≠ some key := nofun
      change handlerCount { journal with loggers := stripLoggers journal.current journal.loggers } key ≠ 0 at equipped
      rw [handlerCount_stripLoggers] at equipped
      split at equipped
      next => contradiction
      -- A logger that was not current keeps its files, but then it was refused before.
      next absent => exact (refusedLast_append unasked).mpr (standing.refused absent equipped)

/-- A logger that is current stays as it is when it is asked for again, by whatever name. -/
theorem Standing.again (standing : Standing past journal (loggerKey name component))
    (current : loggerKey name component ∈ journal.current) :
    Standing (past ++ [.handedOut name component]) journal (loggerKey name component) := by
  have earlier := standing.current_iff.mp current
  have same : firstPair? (past ++ [.handedOut name component]) (loggerKey name component) =
      firstPair? past (loggerKey name component) := by
    rw [firstPair?_append (by simp), Option.or_of_isSome earlier]
  refine ⟨?_, ?_, fun absent => absurd current absent⟩
  · rw [same]
    exact standing.current_iff
  · rw [same]
    exact standing.ready

theorem Standing.refuse (standing : Standing past journal (loggerKey name component))
    (absent : loggerKey name component ∉ journal.current) (continues : Continues journal later) :
    Standing (past ++ [.refused name component]) later (loggerKey name component) := by
  have same : firstPair? (past ++ [.refused name component]) (loggerKey name component) = none := by
    rw [firstPair?_append (by simp), Option.not_isSome_iff_eq_none.mp (mt standing.current_iff.mpr absent)]
    rfl
  refine ⟨?_, ?_, fun _ _ => refusedLast_of_refused⟩
  · simp [same, continues.current, absent]
  · simp [same]

theorem Standing.handOut (standing : Standing past journal (loggerKey name component))
    (absent : loggerKey name component ∉ journal.current) (ready : Ready later name component) :
    Standing (past ++ [.handedOut name component])
      { later with current := journal.current ++ [loggerKey name component] } (loggerKey name component) := by
  have first : firstPair? (past ++ [.handedOut name component]) (loggerKey name component) =
      some (name, component) := by
    rw [firstPair?_append (by simp), Option.not_isSome_iff_eq_none.mp (mt standing.current_iff.mpr absent),
      Option.none_or]
    exact if_pos rfl
  refine ⟨?_, ?_, fun missing => absurd (List.mem_append_right _ (List.mem_singleton_self _)) missing⟩
  · simp [first]
  · intro other part asked
    obtain ⟨rfl, rfl⟩ := Prod.mk.inj (Option.some.inj (first.symm.trans asked))
    exact ready

theorem Standing.beside {other : String} (standing : Standing past later key) (differ : key ≠ other) :
    Standing past { later with current := later.current ++ [other] } key := by
  refine ⟨?_, fun name component first => standing.ready name component first,
    fun absent equipped => standing.refused ?_ equipped⟩
  · simpa [differ] using standing.current_iff
  · exact fun current => absent (List.mem_append_left _ current)

theorem Standing.request (standing : Standing past journal key) (name : String) (component : Option String) :
    Standing (past ++ (journal.eventOf? (.request name component)).toList) (journal.request name component).1 key := by
  rw [eventOf?]
  by_cases asked : loggerKey name component = key
  · subst asked
    by_cases current : loggerKey name component ∈ journal.current
    · rw [request_again current]
      exact standing.again current
    · rcases request_anew current with ⟨later, attached, handedOut⟩ | ⟨handlers, problem, refused⟩
      · rw [handedOut]
        exact standing.handOut current (ready_attached attached)
      · rw [refused]
        exact standing.refuse current (continues_attached journal name component handlers)
  · have handedOut : (Event.handedOut name component).key? ≠ some key := by simpa [Event.key?] using asked
    have refusal : (Event.refused name component).key? ≠ some key := by simpa [Event.key?] using asked
    by_cases current : loggerKey name component ∈ journal.current
    · rw [request_again current]
      exact standing.append_other (.refl journal) rfl handedOut (by simp)
    · have continues := continues_attached journal name component
      have kept (handlers : List Handler) := logger?_attached journal (Ne.symm asked) handlers
      rcases request_anew current with ⟨later, attached, made⟩ | ⟨handlers, problem, refused⟩
      · have continues := continues (journal.handlersFor name component)
        have kept := kept (journal.handlersFor name component)
        rw [attached] at continues kept
        rw [made, ← continues.current]
        exact (standing.append_other continues kept handedOut (by simp)).beside (Ne.symm asked)
      · rw [refused]
        exact standing.append_other (continues handlers) (kept handlers) refusal (by simp)

theorem Standing.step (standing : Standing past journal key) (step : Step) :
    Standing (past ++ (journal.eventOf? step).toList) (journal.step step).1 key := by
  cases step with
  | setEnvironment changes =>
    rw [eventOf?, Option.toList_none, List.append_nil]
    exact standing.continues ⟨rfl, rfl, rfl, rfl⟩ rfl rfl id
  | configure directory debug =>
    rw [eventOf?, Journal.step]
    cases configured : journal.configure directory debug with
    | error problem => rwa [Option.toList_none, List.append_nil]
    | ok later => exact standing.configure configured
  | request name component => exact standing.request name component
  | write other stamp line =>
    rw [eventOf?, Option.toList_none, List.append_nil]
    exact standing.continues (continues_write journal other stamp line) (settings_write journal other key stamp line)
      rfl id

theorem Standing.run (standing : Standing past journal key) (steps : List Step) :
    Standing (past ++ journal.events steps) (journal.run steps) key := by
  induction steps generalizing past journal with
  | nil => rwa [events, List.append_nil]
  | cons step steps ih =>
    rw [events, ← List.append_assoc, Journal.run, List.foldl_cons]
    exact ih (standing.step step)

/-! ## Files that handlers have open -/

def Within (journal : Journal) : Prop :=
  ∀ key logger, journal.logger? key = some logger → ∀ handler ∈ logger.handlers, IsWithin ⟨handler, journal.disk⟩

theorem Within.of_logger? (within : Within journal)
    (known : ∀ key logger, later.logger? key = some logger → logger.handlers = [] ∨ journal.logger? key = some logger)
    (grown : journal.disk.contents.length ≤ later.disk.contents.length) : Within later := by
  intro key logger found handler member id held
  rcases known key logger found with bare | same
  · rw [bare] at member
    cases member
  · exact Nat.lt_of_lt_of_le (within key logger same handler member id held) grown

theorem Within.attach (within : Within journal) (key : String) (handlers : List Handler) :
    Within (journal.attach key handlers).1 := by
  induction journal, handlers using attach_induction key with
  | none => exact within
  | refused journal handler handlers problem failed => rwa [attach_refused failed]
  | opened journal handler handlers disk id found ih =>
    rw [attach_cons found]
    apply ih
    have grown : Within { journal with disk := disk } :=
      within.of_logger? (fun _ _ same => .inr same) (Disk.length_openFile found)
    intro other logger known
    rw [equip] at known
    have table := (logger?_mapHandlers { journal with disk := disk } key other _).symm.trans known
    split at table
    next here =>
      obtain ⟨before, there, rfl⟩ := Option.map_eq_some_iff.mp table
      refine List.forall_mem_append.mpr ⟨grown key before there, ?_⟩
      intro last member file held
      rw [List.mem_singleton.mp member] at held
      exact Option.some.inj held ▸ Disk.lt_of_openFile found
    next => exact grown other logger table

theorem Within.write (within : Within journal) (key : String) (stamp : Stamp) (line : Line) :
    Within (journal.write key stamp line) := by
  rcases write_cases journal key stamp line with same | ⟨logger, known, heard⟩
  · rwa [same]
  · obtain ⟨grown, fit⟩ := deliver_induction (fun disk handler => IsWithin ⟨handler, disk⟩)
      (fun disk later => disk.contents.length ≤ later.contents.length) journal.machine.isHalf
      (loggerPreamble ++ key) stamp line (fun _ => Nat.le_refl _) Nat.le_trans
      (fun grown within id held => Nat.lt_of_lt_of_le (within id held) grown)
      (fun text within => (isWithin_emit within _ text).symm) logger.handlers journal.disk (within key logger known)
    intro other found there
    rw [logger?_write_of_heard known heard] at there
    rw [write_of_heard known heard]
    split at there
    next =>
      rw [← Option.some.inj there]
      exact fit
    next =>
      intro handler member id held
      exact Nat.lt_of_lt_of_le (within other found there handler member id held) grown

theorem Within.configure {directory : Option String} {debug : Option Bool} (within : Within journal)
    (configured : journal.configure directory debug = .ok later) : Within later := by
  rw [Journal.configure] at configured
  split at configured
  next => cases configured
  next =>
    obtain rfl := Except.ok.inj configured
    refine within.of_logger? (fun key logger found => ?_) (Nat.le_refl _)
    have stripped := (logger?_stripLoggers journal key).symm.trans found
    obtain ⟨before, known, rfl⟩ := Option.map_eq_some_iff.mp stripped
    split
    next => exact .inl rfl
    next => exact .inr known

theorem Within.request (within : Within journal) (name : String) (component : Option String) :
    Within (journal.request name component).1 := by
  have prepared : Within (journal.prepared name component) := by
    refine within.of_logger? (fun key logger found => ?_) (spares_prepared journal name component []).grown
    rw [logger?_prepared] at found
    split at found
    next => exact .inl (Option.some.inj found ▸ rfl)
    next => exact .inr found
  by_cases current : loggerKey name component ∈ journal.current
  · rwa [request_again current]
  · rcases request_anew current with ⟨later, attached, handedOut⟩ | ⟨handlers, problem, refused⟩
    · have equipped := prepared.attach (loggerKey name component) (journal.handlersFor name component)
      rw [attached] at equipped
      rw [handedOut]
      exact equipped
    · rw [refused]
      exact prepared.attach _ handlers

theorem Within.step (within : Within journal) (step : Step) : Within (journal.step step).1 := by
  cases step with
  | setEnvironment changes => exact within
  | write key stamp line => exact within.write key stamp line
  | configure directory debug =>
    rw [Journal.step]
    cases configured : journal.configure directory debug with
    | error problem => exact within
    | ok later => exact within.configure configured
  | request name component => exact within.request name component

theorem Within.run (within : Within journal) (steps : List Step) : Within (journal.run steps) := by
  induction steps generalizing journal with
  | nil => exact within
  | cons step steps ih => exact ih (within.step step)

/-! ## Loggers of any run -/

structure IsFresh (journal : Journal) : Prop where
  current : journal.current = []
  loggers : journal.loggers = []

theorem IsFresh.standing (fresh : IsFresh journal) (key : String) : Standing [] journal key := by
  refine ⟨?_, nofun, fun _ equipped => absurd ?_ equipped⟩
  · simp [fresh.current, firstPair?, recent]
  · simp [handlerCount, logger?, fresh.loggers]

theorem IsFresh.within (fresh : IsFresh journal) : Within journal := by
  intro key logger known
  rw [logger?, fresh.loggers] at known
  cases known

/-- The level of a logger and its files with their levels are those of the configuration: the file of its part, in
debug mode the common one, and that of errors. None of its lines goes to the console. -/
structure Equipped (journal : Journal) (name : String) (component : Option String) (logger : Logger) : Prop where
  level : logger.level = if journal.debugMode then .debug else .info
  propagates : logger.propagates = false
  files : logger.handlers.map (fun handler => (handler.file, handler.threshold)) =
    (journal.placeOf [component.getD "", Text.lower name ++ ".log"], Level.unset) ::
      ((if journal.debugMode then [(journal.placeOf ["debug.log"], Level.debug)] else []) ++
        [(journal.placeOf ["error.log"], Level.error)])

/-- A line that a logger lets through is written by each of its handlers that it reaches once at most, into one file
and behind what the file holds; as long as there is room it is written, into the file that the handler has open. Other
lines change nothing. -/
structure Delivers (journal : Journal) (key : String) (logger : Logger) : Prop where
  distinct : logger.handlers.Nodup
  heard : ∀ stamp line, line.level.reaches logger.level = true → ∃ target, ∀ id,
    (journal.write key stamp line).disk.content id =
      journal.disk.content id ++ textFor logger.handlers target (loggerPreamble ++ key) stamp line id
  roomy : ∀ stamp line, line.level.reaches logger.level = true →
    HasRoom journal.disk logger.handlers (loggerPreamble ++ key) stamp line → ∀ id,
      (journal.write key stamp line).disk.content id = journal.disk.content id ++
        textFor logger.handlers (openTarget journal.machine.isHalf (loggerPreamble ++ key) stamp line)
          (loggerPreamble ++ key) stamp line id
  unheard : ∀ stamp line, line.level.reaches logger.level = false → journal.write key stamp line = journal

theorem nodup_of_handlersFor {handlers : List OpenHandler}
    (same : handlers.map OpenHandler.toHandler = journal.handlersFor name component) : handlers.Nodup := by
  have thresholds : ((journal.handlersFor name component).map Handler.threshold).Nodup := by
    rw [handlersFor]
    cases journal.debugMode <;> simp
  rw [← same, List.map_map] at thresholds
  exact List.Pairwise.of_map _ (fun _ _ differ same => differ (congrArg _ same)) thresholds

theorem Ready.exists_logger (ready : Ready journal name component) :
    ∃ logger, journal.logger? (loggerKey name component) = some logger ∧
      logger.handlers.map OpenHandler.toHandler = journal.handlersFor name component ∧
      Equipped journal name component logger := by
  obtain ⟨logger, known, same⟩ := Option.map_eq_some_iff.mp ready
  obtain ⟨level, rest⟩ := Prod.mk.inj same
  obtain ⟨handlers, propagates⟩ := Prod.mk.inj rest
  refine ⟨logger, known, handlers, level, propagates, ?_⟩
  rw [← files_handlersFor, ← handlers, List.map_map]
  rfl

theorem delivers {logger : Logger} (known : journal.logger? key = some logger) (within : Within journal)
    (same : logger.handlers.map OpenHandler.toHandler = journal.handlersFor name component) :
    Delivers journal key logger where
  distinct := nodup_of_handlersFor same
  heard stamp line heard := by
    rw [write_of_heard known heard]
    exact content_deliver (nodup_of_handlersFor same) journal.disk
  roomy stamp line heard room := by
    rw [write_of_heard known heard]
    exact content_deliver_of_room (within key logger known) room
  unheard stamp line unheard := write_of_unheard known unheard stamp

/-- A journal without loggers is used in any way. Then a logger is current exactly if it was handed out since the
configuration was changed last, and it is equipped by the configuration for the name and the component that it was
handed out for first. Any other logger has no files, unless it was refused when it was asked for last; so none has
files as long as no logger is refused. A logger that is handed out now hands each line to each of its handlers at most
once, and if it was not current before, then each handler has the file open that is at its place. -/
theorem loggers_as_configured {start : Journal} (fresh : IsFresh start) (steps : List Step) :
    (∀ key,
      (key ∈ (start.run steps).current ↔ (firstPair? (start.events steps) key).isSome = true) ∧
      (∀ name component, firstPair? (start.events steps) key = some (name, component) →
        ∃ logger, (start.run steps).logger? key = some logger ∧ Equipped (start.run steps) name component logger) ∧
      (key ∉ (start.run steps).current → (start.run steps).handlerCount key ≠ 0 →
        RefusedLast (start.events steps) key)) ∧
    ((∀ name component, .refused name component ∉ start.events steps) → ∀ key, key ∉ (start.run steps).current →
      (start.run steps).handlerCount key = 0) ∧
    ∀ name component later, (start.run steps).request name component = (later, .ok ()) →
      ∃ logger, later.logger? (loggerKey name component) = some logger ∧
        Delivers later (loggerKey name component) logger ∧
        (loggerKey name component ∉ (start.run steps).current →
          ∀ handler ∈ logger.handlers, HasOpened later.disk handler) := by
  have standing (key : String) : Standing (start.events steps) (start.run steps) key := (fresh.standing key).run steps
  have within : Within (start.run steps) := fresh.within.run steps
  refine ⟨fun key => ⟨(standing key).current_iff, fun name component first => ?_, (standing key).refused⟩,
    fun granted key absent => ?_, fun name component later handedOut => ?_⟩
  · obtain ⟨logger, known, -, equipped⟩ := ((standing key).ready name component first).exists_logger
    rw [(handedOut_of_firstPair? first).2] at known
    exact ⟨logger, known, equipped⟩
  · apply (standing key).bare absent
    intro last
    obtain ⟨name, component, refusal, -⟩ := mem_of_refusedLast last
    exact granted name component refusal
  · have after := (standing (loggerKey name component)).request name component
    have inside := within.request name component
    rw [handedOut] at inside
    rw [eventOf?, handedOut] at after
    have member : .handedOut name component ∈ recent (start.events steps ++ [.handedOut name component]) := by
      rw [recent_append (by simp)]
      exact List.mem_append_right _ (List.mem_singleton_self _)
    obtain ⟨⟨other, part⟩, first⟩ := Option.isSome_iff_exists.mp (firstPair?_isSome member)
    obtain ⟨logger, known, same, -⟩ := (after.ready other part first).exists_logger
    rw [(handedOut_of_firstPair? first).2] at known
    refine ⟨logger, known, delivers known inside same, fun absent => ?_⟩
    rcases request_anew absent with ⟨attachedTo, attached, made⟩ | ⟨_, _, refused⟩
    · obtain ⟨opened, -, there, files⟩ := opened_attached attached
      obtain rfl := (Prod.mk.inj (handedOut.symm.trans made)).1
      have same : logger = ⟨_, opened, false⟩ := Option.some.inj (known.symm.trans there)
      rw [same]
      exact files
    · rw [handedOut] at refused
      cases refused

def Machine.lone : Machine where
  work := ["work"]
  straight := by decide
  homes := fun _ => none
  isHalf := fun _ => false

def loneJournal (directory : String) : Journal :=
  .blank Machine.lone [["work"]] (Route.ofText directory) false

/-- A logger that was handed out twice for one configuration and then for another, and one that was not asked for
again. -/
theorem loggers_as_configured_anew :
    let start := loneJournal "logs"
    let steps : List Step := [.request "FilterParser" (some "filters"), .request "Pages" none,
      .request "FilterParser" (some "filters"), .configure (some "other") (some true),
      .request "FilterParser" (some "filters"), .request "filters.FilterParser" none]
    IsFresh start ∧
      (∃ logger, (start.run steps).logger? "filters.FilterParser" = some logger ∧
        Equipped (start.run steps) "FilterParser" (some "filters") logger) ∧
      "Pages" ∉ (start.run steps).current ∧ (start.run steps).handlerCount "Pages" = 0 ∧
      ∃ later logger, (start.run steps).request "Pages" none = (later, .ok ()) ∧
        later.logger? "Pages" = some logger ∧ Delivers later "Pages" logger ∧
        ∀ handler ∈ logger.handlers, HasOpened later.disk handler := by
  intro start steps
  have fresh : IsFresh start := ⟨rfl, rfl⟩
  obtain ⟨each, granted, delivers⟩ := loggers_as_configured fresh steps
  have happened : start.events steps = [.handedOut "FilterParser" (some "filters"), .handedOut "Pages" none,
      .handedOut "FilterParser" (some "filters"), .configured, .handedOut "FilterParser" (some "filters"),
      .handedOut "filters.FilterParser" none] := by
    decide +kernel
  have first : firstPair? (start.events steps) "filters.FilterParser" = some ("FilterParser", some "filters") := by
    rw [happened]
    decide
  have unrefused : ∀ name component, .refused name component ∉ start.events steps := by
    rw [happened]
    simp
  have absent : "Pages" ∉ (start.run steps).current := by decide +kernel
  obtain ⟨-, equipped, -⟩ := each "filters.FilterParser"
  refine ⟨fresh, equipped _ _ first, absent, granted unrefused "Pages" absent, ?_⟩
  have accepted : ((start.run steps).request "Pages" none).2.isOk = true := by decide +kernel
  cases requested : (start.run steps).request "Pages" none with
  | mk later outcome =>
    rw [requested] at accepted
    cases outcome with
    | error problem => cases accepted
    | ok =>
      obtain ⟨logger, known, delivered, opened⟩ := delivers "Pages" none later requested
      exact ⟨later, logger, rfl, known, delivered, opened absent⟩

/-- A logger that is refused keeps the file that was opened for it, though it is not current, and the next change of
the configuration leaves it there. -/
theorem refused_logger_keeps_file :
    let start := loneJournal "logs/error.log"
    let steps : List Step := [.request "FilterParser" (some "filters"), .configure (some "logs") none,
      .request "FilterParser" (some "filters"), .configure (some "other") none]
    IsFresh start ∧
      start.events steps = [.handedOut "FilterParser" (some "filters"), .configured,
        .refused "FilterParser" (some "filters"), .configured] ∧
      ((start.run (steps.take 2)).makeDirectory (some "filters")).2.isOk = true ∧
      (start.run steps).directory = Route.ofText "other" ∧ (start.run steps).current = [] ∧
      ((start.run steps).logger? "filters.FilterParser").map (fun logger =>
        logger.handlers.map fun handler => (handler.file, handler.stream.isSome)) =
          some [(["work", "logs", "filters", "filterparser.log"], true)] ∧
      ¬∀ key, key ∉ (start.run steps).current → (start.run steps).handlerCount key = 0 := by
  intro start steps
  have equipped : (start.run steps).handlerCount "filters.FilterParser" = 1 := by decide +kernel
  have emptied : (start.run steps).current = [] := by decide +kernel
  refine ⟨⟨rfl, rfl⟩, by decide +kernel, by decide +kernel, by decide +kernel, emptied, by decide +kernel, ?_⟩
  intro claimed
  have absent : "filters.FilterParser" ∉ (start.run steps).current := by rw [emptied]; nofun
  rw [claimed _ absent] at equipped
  cases equipped

end QueryGate.Journal
