import QueryGate.Collector.Joined
/-!
Two queries turn by turn. As long as neither has failed, each stands where it would stand alone, and the
caller knows what can be seen of both. The query that fails first decides what the caller gets: two turns
later the failure has reached it, the other query is cancelled unless it has ended, and that is final.
-/

namespace QueryGate.Collector

variable {α β : Type}

/-! ## A query alone -/

def Ending.status : Ending α → Status α
  | .returns value => .returned value
  | .raises message => .raised message
  | .never => .blocked

namespace Behaviour

def after (behaviour : Behaviour α) (turns : Nat) : Status α :=
  if turns ≤ behaviour.yields then .waiting (behaviour.yields - turns) behaviour.ending
  else behaviour.ending.status

variable {behaviour : Behaviour α} {turns : Nat}

theorem after_of_le (early : turns ≤ behaviour.yields) :
    behaviour.after turns = .waiting (behaviour.yields - turns) behaviour.ending := if_pos early

theorem after_of_lt (late : behaviour.yields < turns) :
    behaviour.after turns = behaviour.ending.status := if_neg (by omega)

private theorem step_status (ending : Ending α) : ending.status.step = ending.status := by
  cases ending <;> rfl

theorem step_after (behaviour : Behaviour α) (turns : Nat) :
    (behaviour.after turns).step = behaviour.after (turns + 1) := by
  by_cases early : turns + 1 ≤ behaviour.yields
  · obtain ⟨rest, left⟩ : ∃ rest, behaviour.yields - turns = rest + 1 :=
      ⟨behaviour.yields - turns - 1, by omega⟩
    rw [after_of_le (by omega), after_of_le early, left, Status.step]
    congr 1
    omega
  · rw [after_of_lt (show behaviour.yields < turns + 1 by omega)]
    by_cases last : turns ≤ behaviour.yields
    · rw [after_of_le last, show behaviour.yields - turns = 0 by omega]
      cases behaviour.ending <;> rfl
    · rw [after_of_lt (by omega), step_status]

theorem failure?_after_eq_none (quiet : ∀ message, behaviour.ending = .raises message →
    turns ≤ behaviour.yields) : (behaviour.after turns).failure? = none := by
  by_cases early : turns ≤ behaviour.yields
  · rw [after_of_le early]
    rfl
  · rw [after_of_lt (by omega)]
    cases ends : behaviour.ending with
    | raises message => exact absurd (quiet message ends) early
    | _ => rfl

theorem value?_after_of_never (waits : behaviour.ending = .never) :
    (behaviour.after turns).value? = none := by
  rw [after, waits]
  split <;> rfl

end Behaviour

/-! ## Turns -/

namespace Joined

theorem turns_succ (count : Nat) (joined : Joined α β) : turns (count + 1) joined = (turns count joined).turn := by
  induction count generalizing joined with
  | zero => rfl
  | succ count ih => exact ih joined.turn

theorem turns_add (count further : Nat) (joined : Joined α β) :
    turns (count + further) joined = turns further (turns count joined) := by
  induction further with
  | zero => rfl
  | succ further ih => rw [← Nat.add_assoc, turns_succ, turns_succ, ih]

theorem turn_raised {joined : Joined α β} {message : String} (raised : joined.wait = .raised message) :
    joined.turn = ⟨joined.page.step, joined.count.step, .raised message⟩ := by
  rw [turn, raised]

theorem turns_raised {joined : Joined α β} {message : String} (raised : joined.wait = .raised message)
    (count : Nat) : (turns count joined).wait = .raised message := by
  induction count with
  | zero => exact raised
  | succ count ih => rw [turns_succ, turn_raised ih]

/-! ## Without a failure -/

def untouched (page : Behaviour α) (count : Behaviour β) (turns : Nat) : Joined α β :=
  ⟨page.after turns, count.after turns, observe (page.after turns) (count.after turns)⟩

structure Quiet (page : Behaviour α) (count : Behaviour β) (turns : Nat) : Prop where
  page : ∀ message, page.ending = .raises message → turns ≤ page.yields
  count : ∀ message, count.ending = .raises message → turns ≤ count.yields

variable {page : Behaviour α} {count : Behaviour β}

theorem start_eq : start page count = untouched page count 0 := by
  rw [untouched, Behaviour.after_of_le (Nat.zero_le _), Behaviour.after_of_le (Nat.zero_le _)]
  rfl

/-- Once both have returned, nothing changes any more; before that the caller looks again. -/
theorem turn_observe {first : Status α} {second : Status β} (pageQuiet : first.failure? = none)
    (countQuiet : second.failure? = none) :
    (turn ⟨first, second, observe first second⟩) =
      ⟨first.step, second.step, observe first.step second.step⟩ := by
  cases first with
  | raised message => cases pageQuiet
  | _ =>
    cases second with
    | raised message => cases countQuiet
    | _ => rfl

theorem observe_eq_waiting {first : Status α} {second : Status β} (pageQuiet : first.failure? = none)
    (countQuiet : second.failure? = none) (unfinished : first.value? = none ∨ second.value? = none) :
    observe first second = .waiting := by
  rw [observe, pageQuiet, countQuiet]
  rcases unfinished with absent | absent
  · rw [absent]
  · rw [absent]
    cases first.value? <;> rfl

private theorem turn_untouched {turns : Nat} (quiet : Quiet page count turns) :
    (untouched page count turns).turn = untouched page count (turns + 1) := by
  rw [untouched, untouched, turn_observe (Behaviour.failure?_after_eq_none quiet.page)
    (Behaviour.failure?_after_eq_none quiet.count), Behaviour.step_after, Behaviour.step_after]

theorem turns_untouched {turns : Nat} (quiet : Quiet page count turns) :
    Joined.turns (turns + 1) (start page count) = untouched page count (turns + 1) := by
  -- Whoever has not failed by the last turn had not failed in any turn before it.
  have earlier : ∀ early, early ≤ turns + 1 →
      Joined.turns early (start page count) = untouched page count early := by
    intro early
    induction early with
    | zero => exact fun _ => start_eq
    | succ early ih =>
      intro within
      have stillQuiet : Quiet page count early :=
        ⟨fun message ends => by have := quiet.page message ends; omega,
          fun message ends => by have := quiet.count message ends; omega⟩
      rw [turns_succ, ih (by omega), turn_untouched stillQuiet]
  exact earlier _ (Nat.le_refl _)

/-! ## The first failure -/

/-- The caller gets the failure of the page query if the count query has not failed before it. -/
theorem turns_pageFails {message : String} (fails : page.ending = .raises message)
    (first : ∀ other, count.ending = .raises other → page.yields ≤ count.yields) :
    turns (page.yields + 3) (start page count) =
      ⟨.raised message, (count.after (page.yields + 2)).interrupt, .raised message⟩ := by
  have failed : page.after (page.yields + 1) = .raised message := by
    rw [Behaviour.after_of_lt (Nat.lt_succ_self _), fails]
    rfl
  have quiet : Quiet page count page.yields := ⟨fun _ _ => Nat.le_refl _, first⟩
  have seen : observe (page.after (page.yields + 1)) (count.after (page.yields + 1)) =
      .failing .find message 2 := by
    rw [failed]
    rfl
  have stepped : (count.after (page.yields + 1)).step = count.after (page.yields + 2) :=
    Behaviour.step_after count (page.yields + 1)
  rw [turns_succ, turns_succ, turns_untouched quiet, untouched, seen, failed, ← stepped]
  rfl

/-- The caller gets the failure of the count query if the page query has not failed by then. -/
theorem turns_countFails {message : String} (fails : count.ending = .raises message)
    (first : ∀ other, page.ending = .raises other → count.yields < page.yields) :
    turns (count.yields + 3) (start page count) =
      ⟨(page.after (count.yields + 3)).cancel, .raised message, .raised message⟩ := by
  have failed : count.after (count.yields + 1) = .raised message := by
    rw [Behaviour.after_of_lt (Nat.lt_succ_self _), fails]
    rfl
  have quiet : Quiet page count count.yields :=
    ⟨fun other ends => Nat.le_of_lt (first other ends), fun _ _ => Nat.le_refl _⟩
  have unfailed : (page.after (count.yields + 1)).failure? = none :=
    Behaviour.failure?_after_eq_none first
  have seen : observe (page.after (count.yields + 1)) (count.after (count.yields + 1)) =
      .failing .count message 2 := by
    rw [failed, observe, unfailed]
    rfl
  have stepped : (page.after (count.yields + 1)).step.step = page.after (count.yields + 3) := by
    rw [Behaviour.step_after, Behaviour.step_after]
  rw [turns_succ, turns_succ, turns_untouched quiet, untouched, seen, failed, ← stepped]
  rfl

/-! ## What two queries come to -/

theorem turns_of_unfailing (pageQuiet : ∀ message, page.ending ≠ .raises message)
    (countQuiet : ∀ message, count.ending ≠ .raises message) (turns : Nat) :
    Joined.turns turns (start page count) = untouched page count turns := by
  cases turns with
  | zero => exact start_eq
  | succ turns =>
    exact turns_untouched ⟨fun message ends => absurd ends (pageQuiet message),
      fun message ends => absurd ends (countQuiet message)⟩

/-- Where two queries stand once both have returned. -/
theorem settled_of_returns {data : α} {total : β} (pageReturns : page.ending = .returns data)
    (countReturns : count.ending = .returns total) (further : Nat) :
    settled page count further = ⟨.returned data, .returned total, .returned data total⟩ := by
  have late : max page.yields count.yields < horizon page count + further := by
    unfold horizon
    omega
  rw [settled, turns_of_unfailing (by simp [pageReturns]) (by simp [countReturns]), untouched,
    Behaviour.after_of_lt (by omega), Behaviour.after_of_lt (by omega), pageReturns, countReturns]
  rfl

end Joined

end QueryGate.Collector
