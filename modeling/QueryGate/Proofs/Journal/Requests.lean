import QueryGate.Journal.Use
import QueryGate.Proofs.Journal.Rotation
/-!
What asking for a logger does. A logger that is current stays as it is. Any other gets the level of the configuration,
and the handlers that the configuration asks for, one after another as their files can be opened; no other logger
changes.
-/

namespace QueryGate.Journal

open QueryGate.Journal.Output

variable {key name : String} {component : Option String} {journal later : Journal}

/-! ## Loggers in the table -/

theorem logger?_map {change : String × Logger → String × Logger} (kept : ∀ entry, (change entry).1 = entry.1)
    (journal : Journal) (key : String) : logger? { journal with loggers := journal.loggers.map change } key =
      (journal.loggers.find? fun entry => entry.1 == key).map fun entry => (change entry).2 := by
  have same : ((fun entry : String × Logger => entry.1 == key) ∘ change) = fun entry => entry.1 == key := by
    funext entry
    rw [Function.comp, kept]
  rw [logger?, List.find?_map, same, Option.map_map]
  rfl

theorem logger?_mapHandlers (journal : Journal) (key other : String) (change : List OpenHandler → List OpenHandler) :
    logger? { journal with loggers := mapHandlers journal.loggers key change } other =
      if other = key then (journal.logger? key).map fun logger =>
        { logger with handlers := change logger.handlers }
      else journal.logger? other := by
  have kept (entry : String × Logger) : (if entry.1 == key then
      (key, { entry.2 with handlers := change entry.2.handlers }) else entry).1 = entry.1 := by
    split
    next same => exact (beq_iff_eq.mp same).symm
    next => rfl
  rw [mapHandlers, logger?_map kept]
  split
  next same =>
    rw [same, logger?, Option.map_map]
    refine Option.map_congr fun entry found => ?_
    rw [if_pos (List.find?_some found)]
    rfl
  next differ =>
    refine Option.map_congr fun entry found => ?_
    have named : entry.1 = other := by simpa using List.find?_some found
    rw [if_neg (by simpa [named] using differ)]

theorem logger?_stripLoggers (journal : Journal) (key : String) :
    logger? { journal with loggers := stripLoggers journal.current journal.loggers } key =
      (journal.logger? key).map fun logger =>
        if key ∈ journal.current then { logger with handlers := [] } else logger := by
  have kept (entry : String × Logger) : (if journal.current.contains entry.1 then
      (entry.1, { entry.2 with handlers := [] }) else entry).1 = entry.1 := by
    split <;> rfl
  rw [stripLoggers, logger?_map kept, logger?, Option.map_map]
  refine Option.map_congr fun entry found => ?_
  have named : entry.1 = key := by simpa using List.find?_some found
  rw [Function.comp, named]
  by_cases current : key ∈ journal.current
  · rw [if_pos current, if_pos (List.contains_iff_mem.mpr current)]
  · rw [if_neg current, if_neg (mt List.contains_iff_mem.mp current)]

theorem handlerCount_stripLoggers (journal : Journal) (key : String) :
    handlerCount { journal with loggers := stripLoggers journal.current journal.loggers } key =
      if key ∈ journal.current then 0 else journal.handlerCount key := by
  rw [handlerCount, logger?_stripLoggers, handlerCount]
  cases journal.logger? key with
  | none => simp
  | some logger =>
    rw [Option.map_some, Option.elim_some, Option.elim_some]
    split <;> rfl

private theorem logger?_makeLogger (journal : Journal) (key other : String) :
    (journal.makeLogger key).logger? other =
      if other = key then some ⟨journal.level, [], false⟩ else journal.logger? other := by
  rw [logger?, makeLogger, setLogger]
  split
  next same => rw [same, List.find?_cons_of_pos (by simp), Option.map_some]
  next differ =>
    rw [List.find?_cons_of_neg (by simpa using Ne.symm differ), List.find?_filter, logger?]
    congr 2
    funext entry
    by_cases named : entry.1 = other
    · simp [named, differ]
    · simp [named]

/-! ## Steps that leave the configuration -/

/-- The configuration and the current loggers are as before. -/
structure Continues (journal later : Journal) : Prop where
  machine : later.machine = journal.machine
  directory : later.directory = journal.directory
  debugMode : later.debugMode = journal.debugMode
  current : later.current = journal.current

theorem Continues.refl (journal : Journal) : Continues journal journal := ⟨rfl, rfl, rfl, rfl⟩

theorem Continues.trans {between : Journal} (first : Continues journal between) (second : Continues between later) :
    Continues journal later :=
  ⟨second.machine.trans first.machine, second.directory.trans first.directory,
    second.debugMode.trans first.debugMode, second.current.trans first.current⟩

theorem Continues.level (continues : Continues journal later) : later.level = journal.level := by
  rw [Journal.level, Journal.level, continues.debugMode]

theorem Continues.placeOf (continues : Continues journal later) (parts : List String) :
    later.placeOf parts = journal.placeOf parts := by
  rw [Journal.placeOf, Journal.placeOf, continues.directory, continues.machine]

theorem Continues.handlersFor (continues : Continues journal later) (name : String) (component : Option String) :
    later.handlersFor name component = journal.handlersFor name component := by
  simp only [Journal.handlersFor, continues.placeOf, continues.debugMode]

private theorem continues_makeLogger (journal : Journal) (key : String) : Continues journal (journal.makeLogger key) :=
  ⟨rfl, rfl, rfl, rfl⟩

theorem makeDirectory_fst (journal : Journal) (component : Option String) :
    (journal.makeDirectory component).1 = { journal with
      disk := (journal.disk.makeDirectory ((journal.directory.join (component.getD "")).start journal.machine.work)
        (journal.directory.join (component.getD "")).names).1 } := by
  rw [makeDirectory]

private theorem continues_makeDirectory (journal : Journal) (component : Option String) :
    Continues journal (journal.makeDirectory component).1 := by
  rw [makeDirectory_fst]
  exact ⟨rfl, rfl, rfl, rfl⟩

def equip (journal : Journal) (key : String) (disk : Disk) (handler : OpenHandler) : Journal :=
  { journal with
    disk := disk
    loggers := mapHandlers journal.loggers key fun others => others ++ [handler] }

theorem attach_cons {handler : Handler} {disk : Disk} {id : Nat}
    (opened : journal.disk.openFile handler.file = .ok (disk, id)) (key : String) (handlers : List Handler) :
    journal.attach key (handler :: handlers) = (journal.equip key disk ⟨handler, some id⟩).attach key handlers := by
  rw [attach, opened]
  rfl

theorem attach_refused {handler : Handler} {problem : DiskError}
    (refused : journal.disk.openFile handler.file = .error problem) (key : String) (handlers : List Handler) :
    journal.attach key (handler :: handlers) = (journal, .error (.disk problem)) := by
  rw [attach, refused]

/-- Handlers are attached one after another, up to the first whose file cannot be opened. -/
theorem attach_induction {motive : Journal → List Handler → Prop} (key : String) (none : ∀ journal, motive journal [])
    (refused : ∀ journal handler handlers problem, journal.disk.openFile handler.file = .error problem →
      motive journal (handler :: handlers))
    (opened : ∀ journal handler handlers disk id, journal.disk.openFile handler.file = .ok (disk, id) →
      motive (journal.equip key disk ⟨handler, some id⟩) handlers → motive journal (handler :: handlers))
    (journal : Journal) (handlers : List Handler) : motive journal handlers := by
  induction handlers generalizing journal with
  | nil => exact none journal
  | cons handler handlers ih =>
    cases found : journal.disk.openFile handler.file with
    | error problem => exact refused journal handler handlers problem found
    | ok file => exact opened journal handler handlers file.1 file.2 found (ih _)

theorem continues_attach (journal : Journal) (key : String) (handlers : List Handler) :
    Continues journal (journal.attach key handlers).1 := by
  induction journal, handlers using attach_induction key with
  | none journal => exact .refl journal
  | refused journal handler handlers problem failed =>
    rw [attach_refused failed]
    exact .refl journal
  | opened journal handler handlers disk id found ih =>
    have first : Continues journal (journal.equip key disk ⟨handler, some id⟩) := ⟨rfl, rfl, rfl, rfl⟩
    rw [attach_cons found]
    exact first.trans ih

private theorem logger?_attach_other {other : String} (differ : other ≠ key) (journal : Journal)
    (handlers : List Handler) :
    (journal.attach key handlers).1.logger? other = journal.logger? other := by
  induction journal, handlers using attach_induction key with
  | none => rfl
  | refused journal handler handlers problem failed => rw [attach_refused failed]
  | opened journal handler handlers disk id found ih =>
    rw [attach_cons found, ih]
    exact (logger?_mapHandlers { journal with disk := disk } key other _).trans (if_neg differ)

/-- What is at places stays there while the files of handlers are opened. -/
theorem found?_attach {place : Path} {entry : DiskEntry} (key : String) (handlers : List Handler)
    (there : journal.disk.found? place = some entry) :
    (journal.attach key handlers).1.disk.found? place = some entry := by
  induction journal, handlers using attach_induction key with
  | none => exact there
  | refused journal handler handlers problem failed => rwa [attach_refused failed]
  | opened journal handler handlers disk id found ih =>
    rw [attach_cons found]
    apply ih
    rcases Disk.openFile_ok found with ⟨rfl, -⟩ | ⟨rfl, -⟩
    · exact there
    · exact (Disk.found?_addFile _ _ _).trans (by rw [there, Option.some_or])

def HasOpened (disk : Disk) (handler : OpenHandler) : Prop :=
  ∃ id, handler.stream = some id ∧ disk.found? handler.file = some (.file id)

private theorem attach_ok {handlers : List Handler} (straight : ∀ handler ∈ handlers, ".." ∉ handler.file)
    (attached : journal.attach key handlers = (later, .ok ())) :
    ∃ opened : List OpenHandler, opened.map OpenHandler.toHandler = handlers ∧
      (later.logger? key = (journal.logger? key).map fun logger =>
        { logger with handlers := logger.handlers ++ opened }) ∧
      ∀ handler ∈ opened, HasOpened later.disk handler := by
  induction journal, handlers using attach_induction key with
  | none journal =>
    obtain rfl : journal = later := congrArg Prod.fst attached
    exact ⟨[], rfl, by simp, List.forall_mem_nil _⟩
  | refused journal handler handlers problem failed =>
    rw [attach_refused failed] at attached
    cases attached
  | opened journal handler handlers disk id found ih =>
    rw [List.forall_mem_cons] at straight
    rw [attach_cons found] at attached
    obtain ⟨others, same, equipped, there⟩ := ih straight.2 attached
    have here : (journal.equip key disk ⟨handler, some id⟩).disk.found? handler.file = some (.file id) :=
      (Disk.stands_openFile straight.1 found).entry straight.1
    have still := found?_attach key handlers here
    rw [attached] at still
    refine ⟨⟨handler, some id⟩ :: others, congrArg (handler :: ·) same, ?_,
      List.forall_mem_cons.mpr ⟨⟨id, rfl, still⟩, there⟩⟩
    have added := logger?_mapHandlers { journal with disk := disk } key key fun others =>
      others ++ [⟨handler, some id⟩]
    rw [if_pos rfl] at added
    rw [equipped]
    refine (congrArg (Option.map _) added).trans ?_
    rw [Option.map_map]
    refine Option.map_congr fun logger _ => ?_
    simp only [Function.comp, List.append_assoc, List.singleton_append]

/-! ## Requests -/

def Logger.settings (logger : Logger) : Level × List Handler × Bool :=
  (logger.level, logger.handlers.map OpenHandler.toHandler, logger.propagates)

def Ready (journal : Journal) (name : String) (component : Option String) : Prop :=
  (journal.logger? (loggerKey name component)).map Logger.settings =
    some (journal.level, journal.handlersFor name component, false)

theorem Ready.continues (ready : Ready journal name component) (continues : Continues journal later)
    (kept : (later.logger? (loggerKey name component)).map Logger.settings =
      (journal.logger? (loggerKey name component)).map Logger.settings) : Ready later name component := by
  rw [Ready, kept, ready, continues.level, continues.handlersFor]

theorem files_handlersFor (journal : Journal) (name : String) (component : Option String) :
    (journal.handlersFor name component).map (fun handler => (handler.file, handler.threshold)) =
      (journal.placeOf [component.getD "", Text.lower name ++ ".log"], Level.unset) ::
        ((if journal.debugMode then [(journal.placeOf ["debug.log"], Level.debug)] else []) ++
          [(journal.placeOf ["error.log"], Level.error)]) := by
  simp only [handlersFor]
  cases journal.debugMode <;> simp

theorem straight_handlersFor (journal : Journal) (name : String) (component : Option String) :
    ∀ handler ∈ journal.handlersFor name component, ".." ∉ handler.file := by
  have straight (parts : List String) : ".." ∉ journal.placeOf parts :=
    Route.dots_not_mem_place journal.machine.straight _
  intro handler member
  have placed : (handler.file, handler.threshold) ∈
      (journal.handlersFor name component).map fun handler => (handler.file, handler.threshold) :=
    List.mem_map_of_mem member
  rw [files_handlersFor] at placed
  simp only [List.mem_cons, List.mem_append, Prod.mk.injEq, List.not_mem_nil, or_false] at placed
  rcases placed with ⟨part, -⟩ | debugs | ⟨errors, -⟩
  · rw [part]
    exact straight _
  · split at debugs
    next =>
      rw [(Prod.mk.inj (List.mem_singleton.mp debugs)).1]
      exact straight _
    next => cases debugs
  · rw [errors]
    exact straight _

theorem request_again (member : loggerKey name component ∈ journal.current) :
    journal.request name component = (journal, .ok ()) := by
  rw [request]
  exact if_pos (List.contains_iff_mem.mpr member)

def prepared (journal : Journal) (name : String) (component : Option String) : Journal :=
  ((journal.makeLogger (loggerKey name component)).makeDirectory component).1

theorem continues_prepared (journal : Journal) (name : String) (component : Option String) :
    Continues journal (journal.prepared name component) :=
  (continues_makeLogger journal _).trans (continues_makeDirectory _ component)

theorem logger?_prepared (journal : Journal) (name : String) (component : Option String) (other : String) :
    (journal.prepared name component).logger? other =
      if other = loggerKey name component then some ⟨journal.level, [], false⟩ else journal.logger? other := by
  have table : (journal.prepared name component).loggers = (journal.makeLogger (loggerKey name component)).loggers := by
    rw [prepared, makeDirectory_fst]
  rw [logger?, table, ← logger?_makeLogger, logger?]

theorem spares_prepared (journal : Journal) (name : String) (component : Option String) (place : Path) :
    Disk.Spares place journal.disk (journal.prepared name component).disk := by
  have disk : (journal.makeLogger (loggerKey name component)).disk = journal.disk := rfl
  rw [prepared, makeDirectory_fst, ← disk]
  exact Disk.spares_makeDirectory ..

theorem continues_attached (journal : Journal) (name : String) (component : Option String) (handlers : List Handler) :
    Continues journal ((journal.prepared name component).attach (loggerKey name component) handlers).1 :=
  (continues_prepared journal name component).trans (continues_attach _ _ handlers)

theorem logger?_attached (journal : Journal) {other : String} (differ : other ≠ loggerKey name component)
    (handlers : List Handler) :
    ((journal.prepared name component).attach (loggerKey name component) handlers).1.logger? other =
      journal.logger? other :=
  (logger?_attach_other differ _ handlers).trans ((logger?_prepared journal name component other).trans (if_neg differ))

/-- A logger that is not current gets all its files and is current from then on, or it gets some of them or none and is
refused. -/
theorem request_anew (absent : loggerKey name component ∉ journal.current) :
    (∃ later, (journal.prepared name component).attach (loggerKey name component)
        (journal.handlersFor name component) = (later, .ok ()) ∧
      journal.request name component =
        ({ later with current := journal.current ++ [loggerKey name component] }, .ok ())) ∨
    ∃ handlers problem, journal.request name component =
      (((journal.prepared name component).attach (loggerKey name component) handlers).1, .error problem) := by
  have unknown : ¬journal.current.contains (loggerKey name component) = true := mt List.contains_iff_mem.mp absent
  have started := continues_prepared journal name component
  -- The directory may be refused, and then one of the files: in both cases the logger does not become current.
  cases made : (journal.makeLogger (loggerKey name component)).makeDirectory component with
  | mk between outcome =>
    have same : journal.prepared name component = between := congrArg Prod.fst made
    rw [same] at started ⊢
    cases outcome with
    | error problem =>
      refine .inr ⟨[], problem, ?_⟩
      rw [request, if_neg unknown, made]
      rfl
    | ok =>
      have further := continues_attach between (loggerKey name component) (between.handlersFor name component)
      rw [← started.handlersFor]
      cases attached : between.attach (loggerKey name component) (between.handlersFor name component) with
      | mk later outcome =>
        rw [attached] at further
        cases outcome with
        | error problem =>
          refine .inr ⟨between.handlersFor name component, problem, ?_⟩
          rw [request, if_neg unknown, made]
          dsimp only
          rw [attached]
        | ok =>
          have same : later.current = journal.current := further.current.trans started.current
          refine .inl ⟨later, rfl, ?_⟩
          rw [request, if_neg unknown, made, ← same]
          dsimp only
          rw [attached]

/-- A logger that was just made has the files open that are at the places of its handlers. -/
theorem opened_attached (attached : (journal.prepared name component).attach (loggerKey name component)
    (journal.handlersFor name component) = (later, .ok ())) :
    ∃ opened : List OpenHandler, opened.map OpenHandler.toHandler = journal.handlersFor name component ∧
      later.logger? (loggerKey name component) = some ⟨journal.level, opened, false⟩ ∧
      ∀ handler ∈ opened, HasOpened later.disk handler := by
  obtain ⟨opened, same, equipped, there⟩ := attach_ok (straight_handlersFor journal name component) attached
  rw [logger?_prepared, if_pos rfl] at equipped
  exact ⟨opened, same, equipped, there⟩

theorem ready_attached (attached : (journal.prepared name component).attach (loggerKey name component)
    (journal.handlersFor name component) = (later, .ok ())) : Ready later name component := by
  have continues := continues_attached journal name component (journal.handlersFor name component)
  rw [attached] at continues
  obtain ⟨opened, same, equipped, -⟩ := opened_attached attached
  rw [Ready, equipped, continues.level, continues.handlersFor, ← same]
  rfl

end QueryGate.Journal
