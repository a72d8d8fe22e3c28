import Mathlib.Data.List.Forall2
/-!
Lists whose items are paired. An item of one side has its partner on the other side, and sources have results
that fit them in their order as soon as each of them has one.
-/

namespace QueryGate

variable {α β : Type} {related : α → β → Prop} {sources : List α} {results : List β}

theorem exists_source (pairs : List.Forall₂ related sources results) {result : β}
    (member : result ∈ results) : ∃ source ∈ sources, related source result := by
  induction pairs with
  | nil => cases member
  | cons here _ ih =>
    rcases List.mem_cons.mp member with same | later
    · exact ⟨_, List.mem_cons_self .., same ▸ here⟩
    · obtain ⟨source, inside, there⟩ := ih later
      exact ⟨source, List.mem_cons_of_mem _ inside, there⟩

theorem exists_result (pairs : List.Forall₂ related sources results) {source : α}
    (member : source ∈ sources) : ∃ result ∈ results, related source result :=
  exists_source pairs.flip member

theorem eq_map_of_pairs {become : α → β} (pairs : List.Forall₂ related sources results)
    (each : ∀ source ∈ sources, ∀ result, related source result → result = become source) :
    results = sources.map become := by
  induction pairs with
  | nil => rfl
  | cons here _ ih =>
    have first := each _ (List.mem_cons_self ..) _ here
    have others := ih fun source member => each source (List.mem_cons_of_mem _ member)
    rw [List.map_cons, first, others]

theorem forall₂_imp_of_mem {other : α → β → Prop} (pairs : List.Forall₂ related sources results)
    (each : ∀ source ∈ sources, ∀ result, related source result → other source result) :
    List.Forall₂ other sources results := by
  induction pairs with
  | nil => exact .nil
  | cons here _ ih =>
    rw [List.forall_mem_cons] at each
    exact .cons (each.1 _ here) (ih each.2)

theorem forall₂_congr_of_mem {other : α → β → Prop}
    (each : ∀ source ∈ sources, ∀ result, related source result ↔ other source result) :
    List.Forall₂ related sources results ↔ List.Forall₂ other sources results :=
  ⟨fun pairs => forall₂_imp_of_mem pairs fun source member result => (each source member result).mp,
    fun pairs => forall₂_imp_of_mem pairs fun source member result => (each source member result).mpr⟩

theorem forall₂_trans_of_mem {γ : Type} {again : β → γ → Prop} {both : α → γ → Prop} {others : List γ}
    (pairs : List.Forall₂ related sources results) (later : List.Forall₂ again results others)
    (each : ∀ source ∈ sources, ∀ result other, related source result → again result other →
      both source other) : List.Forall₂ both sources others := by
  induction pairs generalizing others with
  | nil =>
    cases later
    exact .nil
  | cons here _ ih =>
    rw [List.forall_mem_cons] at each
    cases later with
    | cons there rest => exact .cons (each.1 _ _ here there) (ih rest each.2)

theorem forall₂_modify {α : Type} {related : α → α → Prop} {change : α → α} (items : List α) (position : Nat)
    (same : ∀ item, related item item) (changed : ∀ item, related item (change item)) :
    List.Forall₂ related items (items.modify position change) := by
  induction items generalizing position with
  | nil => simp
  | cons item items ih =>
    cases position with
    | zero => exact .cons (changed item) (List.forall₂_same.mpr fun other _ => same other)
    | succ position => exact .cons (same item) (ih position)

theorem forall₂_and {other : α → β → Prop} :
    List.Forall₂ (fun source result => related source result ∧ other source result) sources results ↔
      List.Forall₂ related sources results ∧ List.Forall₂ other sources results := by
  induction sources generalizing results with
  | nil => cases results <;> simp
  | cons source sources ih => cases results <;> simp [ih, and_and_and_comm]

theorem forall₂_and_right {admitted : β → Prop} :
    List.Forall₂ (fun source result => related source result ∧ admitted result) sources results ↔
      List.Forall₂ related sources results ∧ ∀ result ∈ results, admitted result := by
  induction sources generalizing results with
  | nil => cases results <;> simp
  | cons source sources ih => cases results <;> simp [ih, and_and_and_comm]

theorem exists_forall₂_iff :
    (∃ results, List.Forall₂ related sources results) ↔
      ∀ source ∈ sources, ∃ result, related source result := by
  induction sources with
  | nil => exact ⟨fun _ => nofun, fun _ => ⟨[], .nil⟩⟩
  | cons source sources ih =>
    rw [List.forall_mem_cons, ← ih]
    constructor
    · rintro ⟨_, pairs⟩
      cases pairs with
      | cons here others => exact ⟨⟨_, here⟩, _, others⟩
    · rintro ⟨⟨result, here⟩, results, others⟩
      exact ⟨result :: results, .cons here others⟩

theorem forall₂_of_mapM {read : α → Option β} (known : sources.mapM read = some results) :
    List.Forall₂ (fun source result => read source = some result) sources results := by
  induction sources generalizing results with
  | nil =>
    obtain rfl := Option.some.inj known
    exact .nil
  | cons source sources ih =>
    rw [List.mapM_cons, Option.bind_eq_bind, Option.bind_eq_some_iff] at known
    obtain ⟨first, here, later⟩ := known
    rw [Option.bind_eq_bind, Option.bind_eq_some_iff] at later
    obtain ⟨others, there, same⟩ := later
    obtain rfl := Option.some.inj same
    exact .cons here (ih there)

theorem mapM_eq_some_iff {read : α → Option β} :
    sources.mapM read = some results ↔
      List.Forall₂ (fun source result => read source = some result) sources results := by
  refine ⟨forall₂_of_mapM, fun pairs => ?_⟩
  induction pairs with
  | nil => rfl
  | cons here _ ih =>
    rw [List.mapM_cons, here, ih]
    rfl

end QueryGate
