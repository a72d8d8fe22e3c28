import QueryGate.Collector.Call
/-!
Two queries awaited together. Time goes in turns: in each turn every unfinished query makes one step,
the page query before the count query, and a query may give way any number of turns before it ends.
When one of them fails, the failure is noticed one turn later and reaches the caller after another one;
the other query is then cancelled unless it has ended meanwhile, and sees the cancellation at its next
step. A query that waits for ever makes no steps until the cancellation wakes it, which gives it one in the
turn after. If both fail the first failure counts, and in one turn that of the page query.
-/

namespace QueryGate.Collector

inductive Ending (α : Type) where
  | returns (value : α)
  | raises (message : String)
  | never
deriving Repr

/-- What a query does: it gives way for some turns, and then ends. -/
structure Behaviour (α : Type) where
  yields : Nat
  ending : Ending α
deriving Repr

def Behaviour.immediate {α : Type} (value : α) : Behaviour α := ⟨0, .returns value⟩

inductive Status (α : Type) where
  | waiting (yields : Nat) (ending : Ending α)
  | blocked
  | returned (value : α)
  | raised (message : String)
  | cancelling
  | cancelled
deriving Repr

namespace Status

variable {α : Type}

def step : Status α → Status α
  | .waiting (yields + 1) ending => .waiting yields ending
  | .waiting 0 (.returns value) => .returned value
  | .waiting 0 (.raises message) => .raised message
  | .waiting 0 .never => .blocked
  | .cancelling => .cancelled
  | status => status

def cancel : Status α → Status α
  | .waiting _ _ | .blocked => .cancelling
  | status => status

/-- Cancels a query that has not ended, before its step of the turn. If it gives way only, that step sees
the cancellation; if it waits for ever, it has no step in this turn. -/
def interrupt : Status α → Status α
  | .waiting _ _ => .cancelled
  | .blocked => .cancelling
  | status => status

def failure? : Status α → Option String
  | .raised message => some message
  | _ => none

def value? : Status α → Option α
  | .returned value => some value
  | _ => none

def isRunning : Status α → Bool
  | .waiting _ _ | .blocked | .cancelling => true
  | _ => false

def isCancelled : Status α → Bool
  | .cancelled => true
  | _ => false

end Status

inductive Wait (α β : Type) where
  | waiting
  | failing (side : Side) (message : String) (turns : Nat)
  | returned (page : α) (count : β)
  | raised (message : String)

structure Joined (α β : Type) where
  page : Status α
  count : Status β
  wait : Wait α β

namespace Joined

variable {α β : Type}

def start (page : Behaviour α) (count : Behaviour β) : Joined α β :=
  ⟨.waiting page.yields page.ending, .waiting count.yields count.ending, .waiting⟩

def observe (page : Status α) (count : Status β) : Wait α β :=
  match page.failure?, count.failure?, page.value?, count.value? with
  | some message, _, _, _ => .failing .find message 2
  | none, some message, _, _ => .failing .count message 2
  | none, none, some page, some count => .returned page count
  | _, _, _, _ => .waiting

/-- One turn. In the turn in which a failure reaches the caller, the caller acts in the place of the
query that failed: before the count query makes its step, and after the page query made its own. -/
def turn (joined : Joined α β) : Joined α β :=
  match joined.wait with
  | .waiting =>
    let page := joined.page.step
    let count := joined.count.step
    ⟨page, count, observe page count⟩
  | .failing .find message 1 => ⟨joined.page, joined.count.interrupt, .raised message⟩
  | .failing .count message 1 => ⟨joined.page.step.cancel, joined.count, .raised message⟩
  | .failing side message turns =>
    ⟨joined.page.step, joined.count.step, .failing side message (turns - 1)⟩
  | wait => ⟨joined.page.step, joined.count.step, wait⟩

def turns : Nat → Joined α β → Joined α β
  | 0, joined => joined
  | count + 1, joined => turns count joined.turn

/-- How many turns settle what two queries come to: each gives way as often as it will, and a failure
takes two turns more to reach the caller. -/
def horizon (page : Behaviour α) (count : Behaviour β) : Nat := max page.yields count.yields + 3

/-- Where things stand when the caller knows the outcome, and `further` turns later. -/
def settled (page : Behaviour α) (count : Behaviour β) (further : Nat) : Joined α β :=
  turns (horizon page count + further) (start page count)

end Joined

end QueryGate.Collector
