import Mathlib.Data.List.Pairwise
import QueryGate.Journal.Disk
import QueryGate.Proofs.Outcome
/-!
Files of a journal. A file stands at a place if the names on the way there are those of directories. What happens
to the disk elsewhere leaves it standing, with the way that leads to it and with what it holds.
-/

namespace QueryGate.Journal

/-! ## Places -/

private theorem dots_not_mem_follow {place : Path} (straight : ".." ∉ place) (names : List String) :
    ".." ∉ follow place names := by
  induction names generalizing place with
  | nil => exact straight
  | cons name names ih =>
    rw [follow]
    apply ih
    split
    next => exact fun member => straight ((List.dropLast_sublist place).mem member)
    next named =>
      rw [List.mem_append, List.mem_singleton, not_or]
      exact ⟨straight, fun same => named (by rw [← same]; rfl)⟩

private theorem follow_append (place : Path) (names others : List String) :
    follow place (names ++ others) = follow (follow place names) others := by
  induction names generalizing place with
  | nil => rfl
  | cons name names ih => exact ih _

namespace Route

theorem dots_not_mem_place {work : Path} (straight : ".." ∉ work) (route : Route) : ".." ∉ route.place work := by
  apply dots_not_mem_follow
  rw [start]
  split
  next => exact List.not_mem_nil
  next => exact straight

/-- A path that goes on by one name leads one name further. -/
theorem place_join {name : String} (single : ofText name = ⟨"", [name]⟩) (named : name ≠ "..") (route : Route)
    (work : Path) : (route.join name).place work = route.place work ++ [name] := by
  have joined : route.join name = { route with names := route.names ++ [name] } := by
    rw [join, single]
    rfl
  rw [joined, place]
  change follow (route.start work) (route.names ++ [name]) = _
  rw [follow_append, follow, if_neg (by simpa using named)]
  rfl

end Route

namespace Disk

variable {disk between later : Disk} {place other : Path} {id : Nat}

/-! ## Entries -/

theorem found?_of_append {entry : DiskEntry} (grown : later.entries = disk.entries ++ [(place, entry)])
    (other : Path) :
    later.found? other = (disk.found? other).or (if place = other then some entry else none) := by
  unfold found?
  split
  next => rfl
  next =>
    rw [grown, List.find?_append, Option.map_or]
    congr 1
    by_cases same : place = other
    · simp [same]
    · simp [same]

theorem found?_remove (differ : other ≠ place) : (disk.remove place).found? other = disk.found? other := by
  unfold found?
  split
  next => rfl
  next =>
    rw [remove, List.find?_filter]
    congr 2
    funext entry
    by_cases same : entry.1 = other
    · simp [same, differ]
    · simp [same]

theorem found?_move {source target : Path} (behind : ¬source <+: other) (before : ¬target <+: other) :
    (disk.move source target).found? other = disk.found? other := by
  unfold found?
  split
  next => rfl
  next =>
    rw [move, List.find?_map, Option.map_map]
    have seen : ((fun entry : Path × DiskEntry => entry.1 == other) ∘
        fun entry : Path × DiskEntry => (moved source target entry.1, entry.2)) =
          fun entry => entry.1 == other := by
      funext entry
      rw [Function.comp, moved]
      split
      next there =>
        have inside := List.isPrefixOf_iff_prefix.mp there
        have left : entry.1 ≠ other := fun same => behind (same ▸ inside)
        have arrived : target ++ entry.1.drop source.length ≠ other :=
          fun same => before (same ▸ List.prefix_append ..)
        rw [beq_false_of_ne left, beq_false_of_ne arrived]
      next => rfl
    rw [seen]
    rfl

theorem found?_move_source {source target : Path} (stated : source ≠ []) (before : ¬target <+: source) :
    (disk.move source target).found? source = none := by
  rw [found?, if_neg (by simpa using stated), Option.map_eq_none_iff, List.find?_eq_none]
  intro entry member same
  obtain ⟨old, -, rfl⟩ := List.mem_map.mp member
  have arrived : moved source target old.1 = source := by simpa using same
  rw [moved] at arrived
  split at arrived
  next => exact before (arrived ▸ List.prefix_append ..)
  next apart => exact apart (List.isPrefixOf_iff_prefix.mpr (arrived ▸ List.prefix_rfl))

theorem mem_of_found? (found : disk.found? place = some (.file id)) : (place, .file id) ∈ disk.entries := by
  rw [found?] at found
  split at found
  next => cases found
  next =>
    obtain ⟨entry, there, same⟩ := Option.map_eq_some_iff.mp found
    have here : entry.1 = place := by simpa using List.find?_some there
    rw [← here, ← same]
    exact List.mem_of_find?_eq_some there

private theorem lt_of_found? (found : disk.found? place = some (.file id)) : id < disk.contents.length :=
  disk.known id (List.mem_filterMap.mpr ⟨_, mem_of_found? found, rfl⟩)

theorem found?_inj (here : disk.found? place = some (.file id)) (there : disk.found? other = some (.file id)) :
    place = other := by
  have apart := List.pairwise_filterMap.mp disk.apart
  have symmetric : Std.Symm fun first second : Path × DiskEntry =>
      ∀ i, first.2.id? = some i → ∀ j, second.2.id? = some j → i ≠ j :=
    ⟨fun _ _ differ i one j two => Ne.symm (differ j two i one)⟩
  apply Classical.byContradiction
  intro differ
  have each := apart.forall (mem_of_found? here) (mem_of_found? there) (by simpa using differ)
  exact each id rfl id rfl rfl

/-! ## Contents -/

theorem content_addFile (disk : Disk) (place : Path) (id : Nat) :
    (disk.addFile place).content id = disk.content id := by
  rw [content, content, addFile, List.getElem?_append]
  split
  next => rfl
  next beyond =>
    rw [List.getElem?_eq_none (Nat.le_of_not_lt beyond)]
    cases id - disk.contents.length <;> rfl

theorem content_append_self (inside : id < disk.contents.length) (text : String) :
    (disk.append id text).content id = disk.content id ++ text := by
  change ((disk.contents.modify id (· ++ text))[id]?).getD "" = ((disk.contents[id]?).getD "") ++ text
  rw [List.getElem?_modify_eq, List.getElem?_eq_getElem inside]
  rfl

theorem content_append_other {target : Nat} (differ : target ≠ id) (text : String) :
    (disk.append target text).content id = disk.content id := by
  change ((disk.contents.modify target (· ++ text))[id]?).getD "" = _
  rw [List.getElem?_modify_ne _ _ differ]
  rfl

theorem content_of_contents (same : later.contents = disk.contents) (id : Nat) :
    later.content id = disk.content id := by
  rw [content, content, same]

/-! ## Opening -/

theorem find_eq_ok_iff {name : String} {entry : DiskEntry} :
    disk.find place name = .ok entry ↔
      FileName.isLong name = false ∧ disk.found? (place ++ [name]) = some entry := by
  unfold find
  split
  next long => simp [long]
  next short => split <;> simp_all

/-- Names without any that lead up are walked as long as each is that of a directory. -/
theorem walk_eq_ok_iff {names : List String} (straight : ".." ∉ names) {start : Path} :
    disk.walk start names = .ok place ↔ place = start ++ names ∧
      ∀ before name after, names = before ++ name :: after →
        FileName.isLong name = false ∧ disk.found? (start ++ before ++ [name]) = some .directory := by
  induction names generalizing start with
  | nil =>
    rw [walk, List.append_nil]
    constructor
    · intro same
      exact ⟨(Except.ok.inj same).symm, by simp⟩
    · exact fun ⟨same, _⟩ => congrArg Except.ok same.symm
  | cons name names ih =>
    obtain ⟨named, further⟩ := not_or.mp (mt List.mem_cons.mpr straight)
    have onwards : disk.walk start (name :: names) = .ok place ↔
        disk.find start name = .ok .directory ∧ disk.walk (start ++ [name]) names = .ok place := by
      rw [walk, if_neg (by simpa using Ne.symm named)]
      split <;> simp_all
    rw [onwards, find_eq_ok_iff, ih further]
    constructor
    · rintro ⟨here, rfl, later⟩
      refine ⟨by simp, fun before last after split => ?_⟩
      cases before with
      | nil =>
        obtain ⟨rfl, -⟩ := List.cons.inj split
        simpa using here
      | cons first before =>
        obtain ⟨rfl, rest⟩ := List.cons.inj split
        simpa using later before last after rest
    · rintro ⟨rfl, each⟩
      refine ⟨by simpa using each [] name names rfl, by simp, fun before last after split => ?_⟩
      simpa using each (name :: before) last after (congrArg (name :: ·) split)

def Stands (disk : Disk) (place : Path) (id : Nat) : Prop := disk.look [] place = .ok (.file id)

/-- What makes a file stand at a place that is reached without going up. -/
theorem stands_iff {names : List String} {last : String} (straight : ".." ∉ names ++ [last]) :
    disk.Stands (names ++ [last]) id ↔ (names ++ [last]).any FileName.hasNull = false ∧
      disk.walk [] names = .ok names ∧ FileName.isLong last = false ∧
      disk.found? (names ++ [last]) = some (.file id) := by
  rw [List.mem_append, not_or, List.mem_singleton] at straight
  have reached (place : Path) (walked : disk.walk [] names = .ok place) : place = names :=
    ((walk_eq_ok_iff straight.1).mp walked).1
  rw [Stands, look]
  split
  next null => simp [null]
  next clean =>
    simp only [List.getLast?_concat, List.dropLast_concat, Outcome.bind_eq_ok,
      if_neg (show ¬(last == "..") = true by simpa using Ne.symm straight.2), find_eq_ok_iff]
    constructor
    · rintro ⟨place, walked, short, there⟩
      obtain rfl := reached place walked
      exact ⟨by simpa using clean, walked, short, there⟩
    · rintro ⟨-, walked, short, there⟩
      exact ⟨names, walked, short, there⟩

/-- A place at which a file may stand has a last name. -/
theorem Stands.exists_last (stands : disk.Stands place id) : ∃ names last, place = names ++ [last] := by
  rcases List.eq_nil_or_concat place with rfl | ⟨names, last, same⟩
  · cases stands
  · exact ⟨names, last, by rw [same, List.concat_eq_append]⟩

theorem Stands.entry (straight : ".." ∉ place) (stands : disk.Stands place id) :
    disk.found? place = some (.file id) := by
  obtain ⟨names, last, rfl⟩ := stands.exists_last
  exact ((stands_iff straight).mp stands).2.2.2

theorem Stands.openFile (stands : disk.Stands place id) : disk.openFile place = .ok (disk, id) := by
  rw [Disk.openFile, stands]

theorem openFile_ok (opened : disk.openFile place = .ok (later, id)) :
    later = disk ∧ disk.Stands place id ∨
      later = disk.addFile place ∧ id = disk.contents.length ∧ disk.look [] place = .error .missing ∧
        ∃ above, disk.walk [] place.dropLast = .ok above := by
  rw [openFile] at opened
  split at opened
  next seen =>
    obtain ⟨rfl, rfl⟩ := Prod.mk.inj (Except.ok.inj opened)
    exact .inl ⟨rfl, seen⟩
  next => cases opened
  next missing =>
    split at opened
    next above walked =>
      obtain ⟨rfl, rfl⟩ := Prod.mk.inj (Except.ok.inj opened)
      exact .inr ⟨rfl, rfl, missing, above, walked⟩
    next => cases opened
  next => cases opened

theorem found?_addFile (disk : Disk) (place other : Path) : (disk.addFile place).found? other =
    (disk.found? other).or (if place = other then some (.file disk.contents.length) else none) :=
  found?_of_append rfl other

/-- Nothing is there at a place that is missing in a directory. -/
theorem missing_of_look {names : List String} {last : String} (straight : ".." ∉ names ++ [last])
    (missing : disk.look [] (names ++ [last]) = .error .missing) (walked : disk.walk [] names = .ok names) :
    (names ++ [last]).any FileName.hasNull = false ∧ FileName.isLong last = false ∧
      disk.found? (names ++ [last]) = none := by
  rw [List.mem_append, not_or, List.mem_singleton] at straight
  rw [look] at missing
  split at missing
  next => cases missing
  next clean =>
    simp only [List.getLast?_concat, List.dropLast_concat, walked] at missing
    change (if (last == "..") = true then _ else disk.find names last) = _ at missing
    rw [if_neg (by simpa using Ne.symm straight.2), find] at missing
    split at missing
    next => cases missing
    next short =>
      split at missing
      next => cases missing
      next none => exact ⟨by simpa using clean, by simpa using short, none⟩

/-- What is looked for at a place where nothing is, in a directory, is missing. -/
theorem look_missing {names : List String} {last : String} (straight : ".." ∉ names ++ [last])
    (clean : (names ++ [last]).any FileName.hasNull = false) (walked : disk.walk [] names = .ok names)
    (short : FileName.isLong last = false) (none : disk.found? (names ++ [last]) = none) :
    disk.look [] (names ++ [last]) = .error .missing := by
  rw [List.mem_append, not_or, List.mem_singleton] at straight
  rw [look, if_neg (by simpa using clean), List.getLast?_concat, List.dropLast_concat]
  simp only [walked]
  change (if (last == "..") = true then _ else disk.find names last) = _
  rw [if_neg (by simpa using Ne.symm straight.2), find, if_neg (by simp [short]), none]

theorem lt_of_stands (stands : disk.Stands place id) : id < disk.contents.length := by
  rw [Stands, look] at stands
  split at stands
  next => cases stands
  next =>
    split at stands
    next => cases stands
    next =>
      obtain ⟨reached, -, found⟩ := Outcome.bind_eq_ok.mp stands
      split at found
      next => cases found
      next => exact lt_of_found? (find_eq_ok_iff.mp found).2

theorem lt_of_openFile (opened : disk.openFile place = .ok (later, id)) : id < later.contents.length := by
  rcases openFile_ok opened with ⟨rfl, stands⟩ | ⟨rfl, rfl, -, -⟩
  · exact lt_of_stands stands
  · simp [addFile]

theorem content_openFile (opened : disk.openFile place = .ok (later, id)) (file : Nat) :
    later.content file = disk.content file := by
  rcases openFile_ok opened with ⟨rfl, -⟩ | ⟨rfl, -⟩
  · rfl
  · exact content_addFile disk place file

theorem length_openFile (opened : disk.openFile place = .ok (later, id)) :
    disk.contents.length ≤ later.contents.length := by
  rcases openFile_ok opened with ⟨rfl, -⟩ | ⟨rfl, -⟩
  · exact Nat.le_refl _
  · simp [addFile]

/-! ## Changes elsewhere -/

/-- What happens away from a place. The directories on the way there stay, the place has the file that it had, with
what it holds, and no file is forgotten. -/
structure Spares (place : Path) (disk later : Disk) : Prop where
  above : ∀ before, before <+: place → disk.found? before = some .directory → later.found? before = some .directory
  file : ∀ id, later.found? place = some (.file id) ↔ disk.found? place = some (.file id)
  content : ∀ id, disk.found? place = some (.file id) → later.content id = disk.content id
  grown : disk.contents.length ≤ later.contents.length

theorem Spares.refl (place : Path) (disk : Disk) : Spares place disk disk :=
  ⟨fun _ _ there => there, fun _ => .rfl, fun _ _ => rfl, Nat.le_refl _⟩

theorem Spares.trans (first : Spares place disk between) (second : Spares place between later) :
    Spares place disk later where
  above before inside there := second.above before inside (first.above before inside there)
  file id := (second.file id).trans (first.file id)
  content id there := (second.content id ((first.file id).mpr there)).trans (first.content id there)
  grown := Nat.le_trans first.grown second.grown

theorem Spares.of_found? (same : ∀ before, before <+: place → later.found? before = disk.found? before)
    (contents : later.contents = disk.contents) : Spares place disk later where
  above before inside there := (same before inside).trans there
  file id := by rw [same place List.prefix_rfl]
  content id _ := content_of_contents contents id
  grown := Nat.le_of_eq (congrArg List.length contents.symm)

/-- A file stays at its place as long as it is found there and the directories above it stay. -/
theorem Stands.kept (straight : ".." ∉ place) (stands : disk.Stands place id)
    (above : ∀ before, before <+: place → disk.found? before = some .directory → later.found? before = some .directory)
    (file : later.found? place = some (.file id)) : later.Stands place id := by
  obtain ⟨names, last, rfl⟩ := stands.exists_last
  obtain ⟨clean, walked, short, -⟩ := (stands_iff straight).mp stands
  have further : ".." ∉ names := fun member => straight (List.mem_append_left _ member)
  refine (stands_iff straight).mpr ⟨clean, ?_, short, file⟩
  have each := ((walk_eq_ok_iff further).mp walked).2
  refine (walk_eq_ok_iff further).mpr ⟨rfl, fun before name after split => ?_⟩
  obtain ⟨short, directory⟩ := each before name after split
  have inside : [] ++ before ++ [name] <+: names ++ [last] := ⟨after ++ [last], by simp [split]⟩
  exact ⟨short, above _ inside directory⟩

theorem Stands.spares (straight : ".." ∉ place) (stands : disk.Stands place id) (spares : Spares place disk later) :
    later.Stands place id :=
  stands.kept straight spares.above ((spares.file id).mpr (stands.entry straight))

theorem Stands.append (straight : ".." ∉ place) (stands : disk.Stands place id) (target : Nat) (text : String) :
    (disk.append target text).Stands place id := by
  have found := stands.entry straight
  exact stands.kept straight (fun _ _ there => there) found

private theorem spares_addDirectory (disk : Disk) (place other : Path) :
    Spares place disk (disk.addDirectory other) where
  above before _ there := by rw [found?_of_append rfl, there, Option.some_or]
  file id := by
    rw [found?_of_append rfl]
    cases found : disk.found? place with
    | none => split <;> simp
    | some entry => simp
  content _ _ := rfl
  grown := Nat.le_refl _

theorem spares_openFile (differ : other ≠ place) (opened : disk.openFile other = .ok (later, id)) :
    Spares place disk later := by
  rcases openFile_ok opened with ⟨rfl, -⟩ | ⟨rfl, -⟩
  · exact .refl place later
  · refine ⟨fun before _ there => ?_, fun id => ?_, fun id _ => content_addFile disk other id, ?_⟩
    · rw [found?_addFile, there, Option.some_or]
    · rw [found?_addFile, if_neg differ, Option.or_none]
    · simp [addFile]

theorem spares_append {target : Nat} (differ : disk.found? place ≠ some (.file target)) (text : String) :
    Spares place disk (disk.append target text) where
  above _ _ there := there
  file _ := .rfl
  content id there := content_append_other (fun same => differ (there.trans (by rw [same]))) text
  grown := by simp [append]

/-- A file that was opened stands at its place. -/
theorem stands_openFile (straight : ".." ∉ place) (opened : disk.openFile place = .ok (later, id)) :
    later.Stands place id := by
  rcases openFile_ok opened with ⟨rfl, stands⟩ | ⟨rfl, rfl, missing, above, walked⟩
  · exact stands
  · rcases List.eq_nil_or_concat place with rfl | ⟨names, last, same⟩
    · cases missing
    · rw [List.concat_eq_append] at same
      subst same
      have further : ".." ∉ names := fun member => straight (List.mem_append_left _ member)
      rw [List.dropLast_concat] at walked
      obtain ⟨same, each⟩ := (walk_eq_ok_iff further).mp walked
      rw [List.nil_append] at same
      subst same
      obtain ⟨clean, short, none⟩ := missing_of_look straight missing walked
      refine (stands_iff straight).mpr ⟨clean, (walk_eq_ok_iff further).mpr ⟨rfl, ?_⟩, short, ?_⟩
      · intro before name after split
        obtain ⟨short, directory⟩ := each before name after split
        exact ⟨short, by rw [found?_addFile, directory, Option.some_or]⟩
      · rw [found?_addFile, none, if_pos rfl, Option.none_or]

/-! ## Directories -/

private theorem makeLast_ok {start : Path} {names : List String} {last : String}
    (made : disk.makeLast start names last = .ok later) :
    later = disk ∨ ∃ place, later = disk.addDirectory place := by
  obtain ⟨place, -, there⟩ := Outcome.bind_eq_ok.mp made
  split at there
  next => exact .inl (Except.ok.inj there).symm
  next =>
    split at there
    next => exact .inl (Except.ok.inj there).symm
    next => cases there
    next => exact .inr ⟨_, (Except.ok.inj there).symm⟩
    next => cases there

private theorem spares_makeAll (disk : Disk) (start : Path) (names : List String) (place : Path) :
    Spares place disk (disk.makeAll start names).1 := by
  have last {disk later : Disk} {names : List String} {last : String}
      (made : disk.makeLast start names last = .ok later) : Spares place disk later := by
    rcases makeLast_ok made with rfl | ⟨other, rfl⟩
    · exact .refl place later
    · exact spares_addDirectory disk place other
  induction names generalizing disk with
  | nil => exact .refl place disk
  | cons name names ih =>
    rw [makeAll]
    split
    next made => exact last made
    next =>
      have above := ih disk
      split
      next failed => rwa [failed] at above
      next done =>
        rw [done] at above
        split
        next made => exact above.trans (last made)
        next => exact above
    next => exact .refl place disk

theorem spares_makeDirectory (disk : Disk) (start : Path) (names : List String) (place : Path) :
    Spares place disk (disk.makeDirectory start names).1 := by
  rw [makeDirectory]
  split
  next => exact .refl place disk
  next => exact spares_makeAll disk start _ place

end Disk

end QueryGate.Journal
