import QueryGate.Proofs.Outcome
import QueryGate.Proofs.Pairs
import QueryGate.Proofs.Value.Tree
import QueryGate.Yaml.Document
/-!
Keys of documents. Whatever the pairs of a mapping are, and however many maps are merged into it, its value is
made by settings, so no map in the value of a document has a key twice.
-/

namespace QueryGate.Yaml

open QueryGate.Value

private theorem wholeValue_ok {text : String} {number : Int} {value : Value}
    (known : wholeValue text number = .ok value) : value = .int number := by
  simp only [wholeValue] at known
  split at known
  next => cases known
  next => exact (Except.ok.inj known).symm

private theorem plainValue_ok {text : String} {value : Value} (known : plainValue text = .ok value) :
    ∃ leaf, value = .atom leaf := by
  rw [plainValue] at known
  split at known
  next => cases known
  split at known
  next => exact ⟨_, (Except.ok.inj known).symm⟩
  split at known
  next => exact ⟨_, (Except.ok.inj known).symm⟩
  split at known
  next => exact ⟨_, (Except.ok.inj known).symm⟩
  split at known
  next => exact ⟨_, (Except.ok.inj known).symm⟩
  next => exact ⟨_, (Except.ok.inj known).symm⟩
  next => exact ⟨_, wholeValue_ok known⟩
  next => exact ⟨_, (Except.ok.inj known).symm⟩

private theorem hasDistinctKeys_scalarMeaning (text : String) (isPlain : Bool) :
    (scalarMeaning text isPlain).value.HasDistinctKeys := by
  rw [scalarMeaning, scalarValue]
  cases isPlain with
  | false => exact .atom _
  | true =>
    simp only [↓reduceIte]
    split
    next known =>
      obtain ⟨leaf, rfl⟩ := plainValue_ok known
      exact .atom leaf
    next => exact .atom _

def Contents.Settled (contents : Contents) : Prop :=
  ∀ entry ∈ contents.merged ++ contents.own, entry.2.HasDistinctKeys

private theorem Contents.Settled.hasDistinctKeys {contents : Contents} (settled : contents.Settled) :
    (Value.map contents.entries).HasDistinctKeys := by
  refine .map (Entries.distinct_ofSettings _) fun entry member => ?_
  obtain ⟨setting, inside, same⟩ := Entries.exists_value_of_mem_ofSettings member
  exact same ▸ settled setting inside

theorem Contents.Settled.add {contents : Contents} (settled : contents.Settled) (key : Meaning) {item : Meaning}
    (distinct : item.value.HasDistinctKeys) : (contents.add key item).Settled := by
  rw [Contents.add]
  split
  next leaf _ =>
    intro entry member
    rcases List.mem_append.mp member with early | late
    · exact settled entry (List.mem_append_left _ early)
    · rcases List.mem_cons.mp late with rfl | later
      · exact distinct
      · exact settled entry (List.mem_append_right _ later)
  next => exact settled

theorem Contents.Settled.merge {contents : Contents} (settled : contents.Settled) {entries : Entries}
    (distinct : ∀ entry ∈ entries, entry.2.HasDistinctKeys) (faults : List (List Fault)) :
    (contents.merge entries faults).Settled := by
  intro entry member
  rw [Contents.merge, List.append_assoc] at member
  exact (List.mem_append.mp member).elim (distinct entry) (settled entry)

private theorem entriesOf?_eq_some {value : Value} {entries : Entries} (known : entriesOf? value = some entries) :
    value = .map entries := by
  unfold entriesOf? at known
  split at known
  next => rw [Option.some.inj known]
  next => cases known

private theorem settled_mergeInto {contents : Contents} (settled : contents.Settled) {source : Meaning}
    (distinct : source.value.HasDistinctKeys) : (mergeInto source contents).Settled := by
  rw [mergeInto]
  split
  next entries same =>
    rw [same, hasDistinctKeys_map] at distinct
    exact settled.merge distinct.2 _
  next items same =>
    rw [same, hasDistinctKeys_list] at distinct
    split
    next maps read =>
      refine settled.merge (fun entry member => ?_) _
      obtain ⟨entries, inside, here⟩ := List.mem_flatten.mp member
      obtain ⟨item, among, known⟩ := exists_source (forall₂_of_mapM read) (List.mem_reverse.mp inside)
      have whole := distinct item among
      rw [entriesOf?_eq_some known, hasDistinctKeys_map] at whole
      exact whole.2 entry here
    next => exact settled.merge (List.forall_mem_nil _) _
  next => exact settled.merge (List.forall_mem_nil _) _

mutual

theorem hasDistinctKeys_meaning : ∀ node : Node, node.meaning.value.HasDistinctKeys
  | .scalar word isPlain => by
    rw [Node.meaning]
    exact hasDistinctKeys_scalarMeaning word isPlain
  | .sequence items => by
    rw [Node.meaning]
    exact .list (List.forall_mem_map.mpr (hasDistinctKeys_meanings items))
  | .mapping pairs => by
    rw [Node.meaning]
    exact (settled_contentsOf pairs).hasDistinctKeys

theorem hasDistinctKeys_meanings : ∀ nodes : List Node, ∀ part ∈ Node.meanings nodes, part.value.HasDistinctKeys
  | [] => by
    rw [Node.meanings]
    exact List.forall_mem_nil _
  | node :: nodes => by
    rw [Node.meanings]
    exact List.forall_mem_cons.mpr ⟨hasDistinctKeys_meaning node, hasDistinctKeys_meanings nodes⟩

theorem settled_contentsOf : ∀ pairs : List (Node × Node), (Node.contentsOf pairs).Settled
  | [] => by
    rw [Node.contentsOf]
    exact List.forall_mem_nil _
  | (key, item) :: pairs => by
    simp only [Node.contentsOf]
    have settled := settled_contentsOf pairs
    have distinct := hasDistinctKeys_meaning item
    split
    next => exact settled_mergeInto settled distinct
    next =>
      split
      next => exact settled.add _ distinct
      next => exact settled.add _ distinct

end

/-- No map in a document has a key twice. -/
theorem hasDistinctKeys_read {nestingLimit : Nat} {text : String} {value : Value}
    (known : read nestingLimit text = .ok value) :
    value.HasDistinctKeys := by
  obtain ⟨node, -, valued⟩ := Outcome.bind_eq_ok.mp known
  rw [Node.value] at valued
  split at valued
  next => exact Except.ok.inj valued ▸ hasDistinctKeys_meaning node
  next => cases valued

end QueryGate.Yaml
