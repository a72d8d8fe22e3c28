import QueryGate.Collector.Joined
/-!
Execution models. A model answers find and count requests and may also be able to aggregate and to list
distinct values. A scripted model answers from a script: it returns the same documents, rows and total
whatever it is asked, and its queries can be told to fail at once, to fail later, or to wait for ever.
-/

namespace QueryGate.Collector

structure Model where
  name : String
  find : FindRequest → Behaviour (List Value)
  count : CountRequest → Behaviour Value
  aggregate : Option (Value → Behaviour (List Value))
  distinct : Option (String → Value → List Value)

inductive Mode where
  | answer
  | fail
  | failLater
  | block
deriving DecidableEq, Repr

def Mode.behaviour {α : Type} (mode : Mode) (query : String) (value : α) : Behaviour α :=
  match mode with
  | .answer => .immediate value
  | .fail => ⟨0, .raises (query ++ " failed")⟩
  | .failLater => ⟨1, .raises (query ++ " failed later")⟩
  | .block => ⟨0, .never⟩

structure Script where
  data : List Value
  total : Value
  rows : List Value
  canAggregate : Bool
  canDistinct : Bool
  findMode : Mode
  countMode : Mode
  aggregateMode : Mode

def Script.blank : Script := ⟨[], .int 0, [], false, false, .answer, .answer, .answer⟩

def Script.model (script : Script) (name : String) : Model where
  name := name
  find := fun _ => script.findMode.behaviour Side.find.name script.data
  count := fun _ => script.countMode.behaviour Side.count.name script.total
  aggregate :=
    if script.canAggregate then
      some fun _ => script.aggregateMode.behaviour "aggregate" script.rows
    else none
  distinct := if script.canDistinct then some fun _ _ => script.rows else none

end QueryGate.Collector
