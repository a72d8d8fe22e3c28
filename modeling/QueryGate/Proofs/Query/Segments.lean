import Mathlib.Data.List.Forall2
import QueryGate.Proofs.Outcome
import QueryGate.Proofs.Value.Entries
import QueryGate.Query.Sort
/-!
The segments of a sort text. A sort text is accepted exactly if every term in it names a field, and the order
that it describes is what the terms leave when each sets the direction of its field.
-/

namespace QueryGate.Query

open QueryGate.Filter QueryGate.Outcome

variable {registry : Registry}

def Names (registry : Registry) (terms : List SortTerm) (named : SortOrder) : Prop :=
  List.Forall₂ (fun term entry => termField registry term = .ok entry.1 ∧ term.direction = entry.2)
    terms named

theorem Names.unique {terms : List SortTerm} {named others : SortOrder}
    (names : Names registry terms named) (same : Names registry terms others) : named = others :=
  List.right_unique_forall₂' (fun _ _ _ here there =>
    Prod.ext (Except.ok.inj (here.1.symm.trans there.1)) (here.2.symm.trans there.2)) names same

private theorem addTerms_eq_ok_iff {terms : List SortTerm} {order result : SortOrder} :
    addTerms registry order terms = .ok result ↔ ∃ named, Names registry terms named ∧
      result = named.foldl (fun kept setting => Entries.set setting.1 setting.2 kept) order := by
  induction terms generalizing order with
  | nil =>
    rw [addTerms]
    constructor
    · intro same
      exact ⟨[], .nil, (Except.ok.inj same).symm⟩
    · rintro ⟨named, names, rfl⟩
      cases names
      rfl
  | cons term terms ih =>
    rw [addTerms, bind_eq_ok]
    simp only [ih]
    constructor
    · rintro ⟨field, known, named, names, rfl⟩
      exact ⟨(field, term.direction) :: named, .cons ⟨known, rfl⟩ names, rfl⟩
    · rintro ⟨_, names, rfl⟩
      cases names with
      | @cons _ entry _ named here names =>
        rcases entry with ⟨field, direction⟩
        obtain ⟨known, rfl⟩ := here
        exact ⟨field, known, named, names, rfl⟩

/-- The order that terms describe from the start. -/
theorem readTerms_eq_ok_iff {terms : List SortTerm} {result : SortOrder} :
    addTerms registry [] terms = .ok result ↔
      ∃ named, Names registry terms named ∧ result = Entries.ofSettings named :=
  addTerms_eq_ok_iff

theorem parseSort_text_eq_ok_iff {text : String} {order : SortOrder} :
    parseSort registry (.text text) = .ok (some order) ↔
      order ≠ [] ∧ ∃ named, Names registry (sortTerms text) named ∧ order = Entries.ofSettings named := by
  have spelled : parseSort registry (.text text) = parseSortText registry text := by
    rw [parseSort]
    by_cases empty : text = ""
    · subst empty
      rfl
    · rw [if_neg (by simpa [Value.isVacant, Atom.isVacant] using empty)]
  rw [spelled, parseSortText, bind_eq_ok]
  simp only [readTerms_eq_ok_iff]
  constructor
  · rintro ⟨result, ⟨named, names, rfl⟩, same⟩
    have kept := Except.ok.inj same
    rw [Option.ite_none_left_eq_some, List.isEmpty_iff] at kept
    obtain ⟨some, same⟩ := kept
    obtain rfl := Option.some.inj same
    exact ⟨some, named, names, rfl⟩
  · rintro ⟨some, named, names, rfl⟩
    refine ⟨_, ⟨named, names, rfl⟩, ?_⟩
    rw [if_neg (mt List.isEmpty_iff.mp some)]

end QueryGate.Query
