import QueryGate.Proofs.Collector.Announcing
import QueryGate.Proofs.Collector.Turns
/-!
The two queries for a page, joined. What the caller gets is decided by how the two end and by which of them
fails first, however often each gives way before. Whenever a failure has reached the caller, what is left of
the other query has been cancelled, and no query runs on.
-/

namespace QueryGate.Collector

open QueryGate.Query

variable {α β : Type} {page : Behaviour α} {count : Behaviour β}

/-! ## How two queries can end -/

/-- The failure that comes first; in one turn it is that of the page query. -/
inductive FirstFailure (page : Behaviour α) (count : Behaviour β) : String → Prop
  | page {message : String} (fails : page.ending = .raises message)
      (first : ∀ other, count.ending = .raises other → page.yields ≤ count.yields) :
      FirstFailure page count message
  | count {message : String} (fails : count.ending = .raises message)
      (first : ∀ other, page.ending = .raises other → count.yields < page.yields) :
      FirstFailure page count message

/-- One query waits for ever and the other does not fail. -/
structure Stuck (page : Behaviour α) (count : Behaviour β) : Prop where
  pageQuiet : ∀ message, page.ending ≠ .raises message
  countQuiet : ∀ message, count.ending ≠ .raises message
  never : page.ending = .never ∨ count.ending = .never

theorem exists_firstFailure
    (fails : (∃ message, page.ending = .raises message) ∨ ∃ message, count.ending = .raises message) :
    ∃ message, FirstFailure page count message := by
  by_cases early : ∀ other, count.ending = .raises other → page.yields ≤ count.yields
  · by_cases pageFails : ∃ message, page.ending = .raises message
    · obtain ⟨message, ends⟩ := pageFails
      exact ⟨message, .page ends early⟩
    · obtain ⟨message, ends⟩ := fails.resolve_left pageFails
      exact ⟨message, .count ends fun other raises => absurd ⟨other, raises⟩ pageFails⟩
  · simp only [Classical.not_forall] at early
    obtain ⟨message, ends, earlier⟩ := early
    exact ⟨message, .count ends fun _ _ => Nat.lt_of_not_le earlier⟩

theorem endings_cases (page : Behaviour α) (count : Behaviour β) :
    (∃ data total, page.ending = .returns data ∧ count.ending = .returns total) ∨
      (∃ message, FirstFailure page count message) ∨ Stuck page count := by
  cases pageEnds : page.ending with
  | raises message => exact .inr (.inl (exists_firstFailure (.inl ⟨message, pageEnds⟩)))
  | returns data =>
    cases countEnds : count.ending with
    | raises message => exact .inr (.inl (exists_firstFailure (.inr ⟨message, countEnds⟩)))
    | returns total => exact .inl ⟨data, total, rfl, rfl⟩
    | never => exact .inr (.inr ⟨by simp [pageEnds], by simp [countEnds], .inr countEnds⟩)
  | never =>
    cases countEnds : count.ending with
    | raises message => exact .inr (.inl (exists_firstFailure (.inr ⟨message, countEnds⟩)))
    | _ => exact .inr (.inr ⟨by simp [pageEnds], by simp [countEnds], .inl pageEnds⟩)

/-! ## What the caller gets -/

theorem wait_of_firstFailure {message : String} (first : FirstFailure page count message)
    (further : Nat) : (Joined.settled page count further).wait = .raised message := by
  have within : page.yields + 3 ≤ Joined.horizon page count + further ∧
      count.yields + 3 ≤ Joined.horizon page count + further := by
    unfold Joined.horizon
    omega
  rw [Joined.settled]
  cases first with
  | page fails first =>
    obtain ⟨rest, same⟩ := Nat.exists_eq_add_of_le within.1
    rw [same, Joined.turns_add, Joined.turns_pageFails fails first]
    exact Joined.turns_raised rfl rest
  | count fails first =>
    obtain ⟨rest, same⟩ := Nat.exists_eq_add_of_le within.2
    rw [same, Joined.turns_add, Joined.turns_countFails fails first]
    exact Joined.turns_raised rfl rest

theorem wait_of_stuck (stuck : Stuck page count) (turns : Nat) :
    (Joined.turns turns (Joined.start page count)).wait = .waiting := by
  have pageQuiet : (page.after turns).failure? = none :=
    Behaviour.failure?_after_eq_none fun message ends => absurd ends (stuck.pageQuiet message)
  have countQuiet : (count.after turns).failure? = none :=
    Behaviour.failure?_after_eq_none fun message ends => absurd ends (stuck.countQuiet message)
  rw [Joined.turns_of_unfailing stuck.pageQuiet stuck.countQuiet]
  apply Joined.observe_eq_waiting pageQuiet countQuiet
  exact stuck.never.imp Behaviour.value?_after_of_never Behaviour.value?_after_of_never

/-! ## What a query can come to -/

/-- Where a query can stand, whatever the caller does to it and whenever. -/
inductive Possible (behaviour : Behaviour α) : Status α → Prop
  | waiting (left : Nat) : Possible behaviour (.waiting left behaviour.ending)
  | blocked (ends : behaviour.ending = .never) : Possible behaviour .blocked
  | returned {value : α} (ends : behaviour.ending = .returns value) : Possible behaviour (.returned value)
  | raised {message : String} (ends : behaviour.ending = .raises message) :
      Possible behaviour (.raised message)
  | cancelling : Possible behaviour .cancelling
  | cancelled : Possible behaviour .cancelled

inductive Over (behaviour : Behaviour α) : Status α → Prop
  | returned {value : α} (ends : behaviour.ending = .returns value) : Over behaviour (.returned value)
  | raised {message : String} (ends : behaviour.ending = .raises message) : Over behaviour (.raised message)
  | cancelled : Over behaviour .cancelled

def Stopped (behaviour : Behaviour α) (status : Status α) : Prop :=
  Over behaviour status ∨ status = .cancelling

section

variable {behaviour : Behaviour α} {status : Status α}

theorem Possible.step (possible : Possible behaviour status) : Possible behaviour status.step := by
  cases possible with
  | waiting left =>
    cases left with
    | succ left => exact .waiting left
    | zero =>
      cases ends : behaviour.ending with
      | returns value => exact .returned ends
      | raises message => exact .raised ends
      | never => exact .blocked ends
  | blocked ends => exact .blocked ends
  | returned ends => exact .returned ends
  | raised ends => exact .raised ends
  | cancelling | cancelled => exact .cancelled

theorem Possible.cancel (possible : Possible behaviour status) : Stopped behaviour status.cancel := by
  cases possible with
  | waiting | blocked | cancelling => exact .inr rfl
  | returned ends => exact .inl (.returned ends)
  | raised ends => exact .inl (.raised ends)
  | cancelled => exact .inl .cancelled

theorem Possible.interrupt (possible : Possible behaviour status) :
    Stopped behaviour status.interrupt := by
  cases possible with
  | waiting | cancelled => exact .inl .cancelled
  | blocked | cancelling => exact .inr rfl
  | returned ends => exact .inl (.returned ends)
  | raised ends => exact .inl (.raised ends)

theorem Stopped.over_step (stopped : Stopped behaviour status) : Over behaviour status.step := by
  rcases stopped with ended | rfl
  · cases ended with
    | returned ends => exact .returned ends
    | raised ends => exact .raised ends
    | cancelled => exact .cancelled
  · exact .cancelled

theorem Over.not_isRunning (ended : Over behaviour status) : status.isRunning = false := by
  cases ended <;> rfl

end

/-! ## The invariant -/

/-- What is true in every turn: a failure on its way to the caller is that of a query that has failed, and
once it has reached the caller both queries are stopped. -/
inductive Sound (page : Behaviour α) (count : Behaviour β) : Joined α β → Prop
  | waiting {first : Status α} {second : Status β} (pageStands : Possible page first)
      (countStands : Possible count second) : Sound page count ⟨first, second, .waiting⟩
  | pageFailed {message : String} {second : Status β} (left : Nat) (ends : page.ending = .raises message)
      (countStands : Possible count second) :
      Sound page count ⟨.raised message, second, .failing .find message left⟩
  | countFailed {message : String} {first : Status α} (left : Nat) (ends : count.ending = .raises message)
      (pageStands : Possible page first) :
      Sound page count ⟨first, .raised message, .failing .count message left⟩
  | returned {first : Status α} {second : Status β} (data : α) (total : β)
      (pageStands : Possible page first) (countStands : Possible count second) :
      Sound page count ⟨first, second, .returned data total⟩
  | raised {first : Status α} {second : Status β} (message : String) (pageStopped : Stopped page first)
      (countStopped : Stopped count second) : Sound page count ⟨first, second, .raised message⟩

private theorem sound_start (page : Behaviour α) (count : Behaviour β) :
    Sound page count (Joined.start page count) := .waiting (.waiting _) (.waiting _)

private theorem sound_observe {first : Status α} {second : Status β} (pageStands : Possible page first)
    (countStands : Possible count second) :
    Sound page count ⟨first, second, Joined.observe first second⟩ := by
  -- The page query is looked at first, so its failure hides one of the count query in the same turn.
  cases first with
  | raised message =>
    cases pageStands with
    | raised ends => exact .pageFailed 2 ends countStands
  | returned data =>
    cases second with
    | raised message =>
      cases countStands with
      | raised ends => exact .countFailed 2 ends pageStands
    | returned total => exact .returned data total pageStands countStands
    | _ => exact .waiting pageStands countStands
  | _ =>
    cases second with
    | raised message =>
      cases countStands with
      | raised ends => exact .countFailed 2 ends pageStands
    | _ => exact .waiting pageStands countStands

theorem Sound.turn {joined : Joined α β} (sound : Sound page count joined) :
    Sound page count joined.turn := by
  cases sound with
  | waiting pageStands countStands => exact sound_observe pageStands.step countStands.step
  | pageFailed left ends countStands =>
    -- The failure reaches the caller in the last of the turns that are left.
    rcases left with _ | _ | left
    · exact .pageFailed 0 ends countStands.step
    · exact .raised _ (.inl (.raised ends)) countStands.interrupt
    · exact .pageFailed (left + 1) ends countStands.step
  | countFailed left ends pageStands =>
    rcases left with _ | _ | left
    · exact .countFailed 0 ends pageStands.step
    · exact .raised _ pageStands.step.cancel (.inl (.raised ends))
    · exact .countFailed (left + 1) ends pageStands.step
  | returned data total pageStands countStands =>
    exact .returned data total pageStands.step countStands.step
  | raised message pageStopped countStopped =>
    exact .raised message (.inl pageStopped.over_step) (.inl countStopped.over_step)

theorem sound_turns (page : Behaviour α) (count : Behaviour β) (turns : Nat) :
    Sound page count (Joined.turns turns (Joined.start page count)) := by
  induction turns with
  | zero => exact sound_start page count
  | succ turns ih =>
    rw [Joined.turns_succ]
    exact ih.turn

theorem Sound.stopped {joined : Joined α β} {message : String} (sound : Sound page count joined)
    (reached : joined.wait = .raised message) : Stopped page joined.page ∧ Stopped count joined.count := by
  cases sound with
  | raised _ pageStopped countStopped => exact ⟨pageStopped, countStopped⟩
  | _ => cases reached

/-- Once a failure has reached the caller, both queries are over in all turns that follow. -/
theorem over_of_raised {turns later : Nat} {message : String}
    (reached : (Joined.turns turns (Joined.start page count)).wait = .raised message)
    (passed : turns < later) :
    Over page (Joined.turns later (Joined.start page count)).page ∧
      Over count (Joined.turns later (Joined.start page count)).count := by
  obtain ⟨further, rfl⟩ := Nat.exists_eq_add_of_lt passed
  have lasting : (Joined.turns (turns + further) (Joined.start page count)).wait = .raised message := by
    rw [Joined.turns_add]
    exact Joined.turns_raised reached further
  obtain ⟨pageStopped, countStopped⟩ := (sound_turns page count (turns + further)).stopped lasting
  rw [Joined.turns_succ, Joined.turn_raised lasting]
  exact ⟨pageStopped.over_step, countStopped.over_step⟩

/-! ## Pages -/

section

variable {query : PageQuery} {page : Behaviour (List Value)} {count : Behaviour Value}

theorem joinedOutcome_of_returns {data : List Value} {total : Value}
    (pageReturns : page.ending = .returns data) (countReturns : count.ending = .returns total) :
    joinedOutcome query page count = pageOf query data total := by
  rw [joinedOutcome, Joined.settled_of_returns pageReturns countReturns]

theorem joinedOutcome_of_firstFailure {message : String} (first : FirstFailure page count message) :
    joinedOutcome query page count = .error (.failed message) := by
  rw [joinedOutcome, wait_of_firstFailure first]

theorem joinedOutcome_of_stuck (stuck : Stuck page count) :
    joinedOutcome query page count = .error .stuck := by
  rw [joinedOutcome, Joined.settled, wait_of_stuck stuck]

theorem pageOf_eq_ok {data : List Value} {total : Value} {response : PageResponse} :
    pageOf query data total = .ok response ↔
      ∃ place, paginateValue? query.page query.limit total = some place ∧ response = ⟨data, place⟩ := by
  rw [pageOf]
  cases paginateValue? query.page query.limit total with
  | none => simp
  | some place => simp [eq_comm]

private theorem pageOf_ne_failed {data : List Value} {total : Value} {message : String} :
    pageOf query data total ≠ .error (.failed message) := by
  rw [pageOf]
  cases paginateValue? query.page query.limit total <;> simp

private theorem joinedOutcome_eq_ok {response : PageResponse} :
    joinedOutcome query page count = .ok response ↔
      ∃ data total place, page.ending = .returns data ∧ count.ending = .returns total ∧
        paginateValue? query.page query.limit total = some place ∧ response = ⟨data, place⟩ := by
  constructor
  · intro answered
    rcases endings_cases page count with ⟨data, total, pageReturns, countReturns⟩ | ⟨message, first⟩ | stuck
    · rw [joinedOutcome_of_returns pageReturns countReturns] at answered
      obtain ⟨place, counted, same⟩ := pageOf_eq_ok.mp answered
      exact ⟨data, total, place, pageReturns, countReturns, counted, same⟩
    · rw [joinedOutcome_of_firstFailure first] at answered
      cases answered
    · rw [joinedOutcome_of_stuck stuck] at answered
      cases answered
  · rintro ⟨data, total, place, pageReturns, countReturns, counted, same⟩
    rw [joinedOutcome_of_returns pageReturns countReturns]
    exact pageOf_eq_ok.mpr ⟨place, counted, same⟩

private theorem joinedOutcome_eq_failed {message : String} :
    joinedOutcome query page count = .error (.failed message) ↔ FirstFailure page count message := by
  constructor
  · intro failed
    rcases endings_cases page count with ⟨data, total, pageReturns, countReturns⟩ | ⟨other, first⟩ | stuck
    · rw [joinedOutcome_of_returns pageReturns countReturns] at failed
      exact absurd failed pageOf_ne_failed
    · rw [joinedOutcome_of_firstFailure first] at failed
      cases failed
      exact first
    · rw [joinedOutcome_of_stuck stuck] at failed
      cases failed
  · exact joinedOutcome_of_firstFailure

end

def Joined.after (page : Behaviour α) (count : Behaviour β) (turns : Nat) : Joined α β :=
  Joined.turns turns (Joined.start page count)

/-- How two queries for a page are joined, by the outcome of both and by where they stand turn by turn. -/
structure SafelyJoined (query : PageQuery) (page : Behaviour (List Value)) (count : Behaviour Value)
    (outcome : Except CollectError PageResponse) : Prop where
  answers (response : PageResponse) : outcome = .ok response ↔
    ∃ data total place, page.ending = .returns data ∧ count.ending = .returns total ∧
      paginateValue? query.page query.limit total = some place ∧ response = ⟨data, place⟩
  counts (data : List Value) (total : Int) (pageReturns : page.ending = .returns data)
    (countReturns : count.ending = .returns (.int total)) :
    outcome = .ok ⟨data, (paginate query.page query.limit total).map Value.int⟩
  spares (data : List Value) (total : Value) (pageReturns : page.ending = .returns data)
    (countReturns : count.ending = .returns total) (turns : Nat) :
    (Joined.after page count turns).page = page.after turns ∧
      (Joined.after page count turns).count = count.after turns
  fails (message : String) : outcome = .error (.failed message) ↔ FirstFailure page count message
  notices (failing : (∃ message, page.ending = .raises message) ∨ ∃ message, count.ending = .raises message) :
    ∃ message, FirstFailure page count message
  reaches (message : String) (first : FirstFailure page count message) :
    ∃ turns, (Joined.after page count turns).wait = .raised message
  stops (turns : Nat) (message : String) (reached : (Joined.after page count turns).wait = .raised message) :
    Stopped page (Joined.after page count turns).page ∧ Stopped count (Joined.after page count turns).count
  rests (turns : Nat) (message : String) (reached : (Joined.after page count turns).wait = .raised message)
    (later : Nat) (passed : turns < later) :
    (Joined.after page count later).page.isRunning = false ∧
      (Joined.after page count later).count.isRunning = false
  waits (stuck : Stuck page count) (turns : Nat) : (Joined.after page count turns).wait = .waiting

/-- A query for a page answers exactly if both its queries return, with their documents and their total, and
cancels neither of them. It fails exactly if one of them does, with the failure that comes first; when that
reaches the caller, the other query has ended or been cancelled, and from the next turn on none is running.
While neither fails and one of them does not end, the caller waits. Where a number in the query or its scope has
too many digits neither query is started, whatever they would do. -/
theorem find_joins (collector : Collector) (query : PageQuery) (scope : Value)
    (populate : Option (List Relation)) (confined : Value) (request : FindRequest)
    (within : scopedFilter query.filter scope = .ok confined)
    (stated : collector.pageRequest query populate confined = (request, .ok ())) :
    let run := collector.find query scope populate
    (PageOverlong query scope → run = .refused .overlong) ∧
      (¬PageOverlong query scope →
        SafelyJoined query (collector.model.find request) (collector.model.count ⟨confined, none⟩)
          run.outcome) := by
  intro run
  refine ⟨fun overlong => find_of_overlong within overlong, fun short => ?_⟩
  obtain ⟨line, told⟩ := exists_pageLine within short
  have opened : run.outcome =
      joinedOutcome query (collector.model.find request) (collector.model.count ⟨confined, none⟩) := by
    simp only [run, find, withinScope, within, told, announced, stated]
  rw [opened]
  constructor
  · exact fun response => joinedOutcome_eq_ok
  · intro data total pageReturns countReturns
    rw [joinedOutcome_of_returns pageReturns countReturns]
    exact pageOf_eq_ok.mpr ⟨_, paginateValue?_int .., rfl⟩
  · intro data total pageReturns countReturns turns
    rw [Joined.after, Joined.turns_of_unfailing (by simp [pageReturns]) (by simp [countReturns])]
    exact ⟨rfl, rfl⟩
  · exact fun message => joinedOutcome_eq_failed
  · exact exists_firstFailure
  · exact fun message first => ⟨_, wait_of_firstFailure first 0⟩
  · exact fun turns message reached => (sound_turns _ _ turns).stopped reached
  · intro turns message reached later passed
    obtain ⟨pageOver, countOver⟩ := over_of_raised reached passed
    exact ⟨pageOver.not_isRunning, countOver.not_isRunning⟩
  · exact wait_of_stuck

/-- A page query that waits for ever beside a count query that fails later: the failure reaches the caller in
the fourth turn, and the page query is cancelled by the sixth. -/
theorem find_joins_blocked :
    let model := { Script.blank with findMode := .block, countMode := .failLater }.model "Files"
    let collector : Collector := ⟨model, .text "_id"⟩
    let query : PageQuery := ⟨.empty, .null, .null, 1, 20, by decide, by decide⟩
    let request : FindRequest := ⟨.empty, pageSteps query none⟩
    let after := Joined.after (model.find request) (model.count ⟨.empty, none⟩)
    scopedFilter query.filter .null = .ok .empty ∧
      collector.pageRequest query none .empty = (request, .ok ()) ∧
      (collector.find query .null none).outcome = .error (.failed "count failed later") ∧
      (after 4).wait = .raised "count failed later" ∧ (after 3).page.isRunning = true ∧
      (after 6).page.isRunning = false ∧ (after 6).count.isRunning = false := by
  intro model collector query request after
  have stated : collector.pageRequest query none .empty = (request, .ok ()) := by rfl
  have page : ¬Number.IsOverlong 1 := Number.not_isOverlong_of_lt (by decide)
  have limit : ¬Number.IsOverlong 20 := Number.not_isOverlong_of_lt (by decide)
  have short : ¬PageOverlong query .null := by
    simp [PageOverlong, query, page, limit, Value.holdsOverlong_map, Value.holdsOverlong_atom, Atom.IsOverlong]
  have safely := (find_joins collector query .null none .empty request rfl stated).2 short
  have first : FirstFailure (model.find request) (model.count ⟨.empty, none⟩) "count failed later" :=
    .count rfl fun _ blocked => by cases blocked
  have reached : (after 4).wait = .raised "count failed later" := by rfl
  exact ⟨rfl, stated, (safely.fails _).mpr first, reached, rfl, safely.rests 4 _ reached 6 (by decide)⟩

/-- Both queries would return, but the number of the page cannot be written, or the order names a field that cannot, so
neither is started. -/
theorem overlong_query_never_joined :
    let collector : Collector := ⟨Script.blank.model "Files", .text "_id"⟩
    let order : Value := .map [(.int Number.leastOverlong, .text "asc")]
    let far : PageQuery := ⟨.empty, .null, .null, Number.leastOverlong, 20, Number.leastOverlong_pos, by decide⟩
    let ordered : PageQuery := ⟨.empty, .null, order, 1, 20, by decide, by decide⟩
    (∀ request, ∃ data, (collector.model.find request).ending = .returns data) ∧
      (∀ request, ∃ total, (collector.model.count request).ending = .returns total) ∧
      ∀ query ∈ [far, ordered], (collector.find query .null none).calls = [] ∧
        ∀ response, (collector.find query .null none).outcome ≠ .ok response := by
  intro collector order far ordered
  have long : order.HoldsOverlong :=
    .key (List.mem_singleton_self _) (Atom.isOverlong_int.mpr Number.isOverlong_leastOverlong)
  have stopped : ∀ query ∈ [far, ordered], collector.find query .null none = .refused .overlong := by
    rw [List.forall_mem_cons, List.forall_mem_singleton]
    exact ⟨find_of_overlong (by rfl) (.inl Number.isOverlong_leastOverlong),
      find_of_overlong (by rfl) (.inr (.inr (.inl long)))⟩
  refine ⟨fun request => ⟨_, rfl⟩, fun request => ⟨_, rfl⟩, fun query listed => ?_⟩
  rw [stopped query listed]
  exact ⟨rfl, nofun⟩

end QueryGate.Collector
